import StControl.Controller.BoundedRetries
import StControl.Controller.CommandQueue

/-!
# Attempts of workflow steps and the commands they wait for

An execution sends the command of a step through the queue and waits until the row has ended
(`runAgentCommandWithOperation`).  When the step fails, a later execution comes to the same step
again.  That attempt is a real one if the answer it gets is about a delivery of its own, or about
one that was still pending when it began; it is not if the queue answers from the row of an attempt
that is over, or refuses the command because the row was made for another request.

Which of the two it is depends on the operation identity.  The steps of a snapshot name the attempt
of the workflow, so a retry makes all of them new.  The steps that prepare, fill and publish a
conflict resolution name nothing but the workflow, which stays the same through every retry and
restart: the second attempt is answered by the failure of the first.  And the digest of the payload
is made with the credential of the agent, so after a rotation the row under the same identity
belongs to another request.
-/

namespace StControl.Controller

open Store Run Transaction Option Table List

/-! ## The controller, the queue and the agents -/

structure CommandRequest where
  workflowID : UUID
  step : CommandStep
  attempt : ℤ
  nodeID : NodeID
  payload : String
  deriving DecidableEq

abbrev CommandRequest.operationID (request : CommandRequest) : OperationID :=
  deriveWorkflowOperationID request.workflowID request.step request.attempt

def CommandRequest.made (request : CommandRequest) (credential : ℕ) (row : AgentCommand) : Bool :=
  row.nodeID = request.nodeID && row.commandType = request.step.commandType &&
    row.payloadSHA256 = ⟨credential, request.payload⟩

structure CommandAnswer where
  commandID : UUID
  state : CommandState
  summary : Option CommandSummary
  deriving DecidableEq

inductive AttemptOutcome
  | waiting
  | refused (error : CommandError)
  | answered (answer : CommandAnswer)
  /-- The wait was given up: a timeout, or the end of the controller's process. -/
  | abandoned
  deriving DecidableEq

/-- One attempt of a step.  The rest records, for the statements only, the credential under which
the queue has taken the command, how many commands had been executed when the attempt began and
which row the queue had under its identity. -/
structure StepAttempt where
  request : CommandRequest
  credential : Option ℕ
  begun : ℕ
  before : Option AgentCommand
  outcome : AttemptOutcome
  deriving DecidableEq

/-- A result that an agent keeps for the command (`cachedCommandResult`). -/
structure AgentResult where
  nodeID : NodeID
  succeeded : Bool
  summary : CommandSummary
  controllerGeneration : ℤ
  deriving DecidableEq

structure CommandDelivery where
  nodeID : NodeID
  controllerGeneration : ℤ
  deriving DecidableEq

/-- The executor with the queue, the credentials of the nodes and the agents.  `executed` lists the
commands in the order in which agents have executed them. -/
structure Dispatcher where
  executor : Executor
  credentials : Table NodeID ℕ
  commands : AgentCommands
  deliveries : Table UUID CommandDelivery
  completed : Table UUID AgentResult
  executed : List UUID
  attempts : Table ℕ StepAttempt

inductive DispatchAct
  | executor (act : ExecutorAct)
  /-- The execution `key` comes to a step: the command gets the identity `commandID`. -/
  | attempt (number key : ℕ) (step : CommandStep) (payload : String) (commandID : UUID) (now : Time)
  /-- A relayed snapshot puts its receive command into the queue before the upload, and again when
  it comes to wait for it. -/
  | enqueueAgain (number : ℕ) (commandID : UUID) (now : Time)
  | poll (number : ℕ) (now : Time)
  | abandon (number : ℕ)
  | lease (operationID : OperationID) (workerID : UUID) (now : Time)
  | clampLeases (nodeID : NodeID) (now : Time)
  | acknowledge (operationID : OperationID) (workerID : UUID) (legacy : Bool) (now : Time)
  | execute (commandID : UUID) (succeeded : Bool) (summary : CommandSummary)
  | report (commandID workerID : UUID)
  /-- The process of the agent starts again: it has lost what it was doing. -/
  | restartAgent (nodeID : NodeID)
  /-- The agent drops an old result. -/
  | forget (commandID : UUID)
  | activateCredential (nodeID : NodeID) (version : ℕ)

def Dispatcher.start (db : Db) (credentials : Table NodeID ℕ) : Dispatcher where
  executor := ⟨db, ∅, []⟩
  credentials
  commands := ∅
  deliveries := ∅
  completed := ∅
  executed := []
  attempts := ∅

section

variable (s : Dispatcher)

def Dispatcher.request (key : ℕ) (step : CommandStep) (payload : String) :
    Option CommandRequest := do
  let e ← s.executor.executions.get? key
  let w ← s.executor.db.workflows.get? e.workflowID
  if step.workflowType = e.workflowType ∧ 0 < step.addressee w ∧
      (step.capabilityID.all fun capabilityID =>
        (s.executor.db.capabilities.get? capabilityID).any fun c =>
        c.workflowID = e.workflowID) then
    some
      { workflowID := e.workflowID, step, attempt := e.attempt, nodeID := step.addressee w
        payload }
  else none

/-- The parameters that `enqueueAgentCommand` makes of the request. -/
def CommandRequest.params (request : CommandRequest) (c : RetryConfig) (credential : ℕ)
    (commandID : UUID) (now : Time) : EnqueueAgentCommandParams where
  id := commandID
  operationID := request.operationID
  nodeID := request.nodeID
  commandType := request.step.commandType
  payloadSHA256 := ⟨credential, request.payload⟩
  expiresAt := now + 600 * c.second
  now
  expectedControllerGeneration := 0
  requeueRetryableTerminal := false

/-- `enqueueAgentCommand` of the controller. -/
def Dispatcher.enqueue (c : RetryConfig) (s : Dispatcher) (request : CommandRequest)
    (commandID : UUID) (now : Time) : Except CommandError AgentCommands :=
  match s.credentials.get? request.nodeID with
  | none => .error .credentialUnavailable
  | some credential =>
    enqueueAgentCommand (request.params c credential commandID now) s.executor.db.activeGeneration
      s.commands

def ExecutorAct.revokes : ExecutorAct → Option NodeID
  | .store (.revokeNodeAccess nodeID _) => some nodeID
  | _ => none

def Dispatcher.unused (commandID : UUID) : Bool :=
  s.commands.all fun _ row => row.id ≠ commandID

def dispatchStep (c : RetryConfig) (s : Dispatcher) : DispatchAct → Option Dispatcher
  | .executor act => do
    let executor ← executorStep c s.executor act
    match act.revokes with
    | none => some { s with executor }
    | some nodeID =>
      some { s with
        executor, credentials := s.credentials.delete fun k _ => k = nodeID
        commands := expireNodeCommands nodeID s.commands }
  | .attempt number key step payload commandID now => do
    let request ← s.request key step payload
    if (s.attempts.get? number).isNone ∧ s.unused commandID then
      let result := s.enqueue c request commandID now
      some { s with
        commands := result.toOption.getD s.commands
        attempts := s.attempts.put number
          { request, begun := s.executed.length, before := s.commands.get? request.operationID
            credential := result.toOption.bind fun _ => s.credentials.get? request.nodeID
            outcome := match result with
              | .ok _ => .waiting
              | .error error => .refused error } }
    else none
  | .enqueueAgain number commandID now => do
    let attempt ← s.attempts.get? number
    if attempt.outcome = .waiting ∧ attempt.request.step = .receiveRelay then
      match s.enqueue c attempt.request commandID now with
      | .ok commands => some { s with commands }
      | .error error =>
        some { s with attempts := s.attempts.put number { attempt with outcome := .refused error } }
    else none
  | .poll number now => do
    let attempt ← s.attempts.get? number
    if attempt.outcome = .waiting then
      let commands := expireQueuedCommand attempt.request.operationID now s.commands
      let row ← commands.get? attempt.request.operationID
      if row.state.ended then
        some { s with
          commands
          attempts := s.attempts.put number { attempt with
            outcome := .answered ⟨row.id, row.state, row.resultSummary⟩ } }
      else some { s with commands }
    else none
  | .abandon number => do
    let attempt ← s.attempts.get? number
    if attempt.outcome = .waiting then
      some { s with attempts := s.attempts.put number { attempt with outcome := .abandoned } }
    else none
  | .lease operationID workerID now => do
    let commands ←
      leaseAgentCommand operationID workerID now (45 * c.second) s.executor.db s.commands
    some { s with commands }
  | .clampLeases nodeID now =>
    some { s with commands := clampAgentCommandRunLeases nodeID now (120 * c.second) s.commands }
  | .acknowledge operationID workerID legacy now => do
    let row ← s.commands.get? operationID
    let commands ← ackAgentCommand row.id row.nodeID workerID row.controllerGeneration now
      (if legacy then 32400 * c.second else 120 * c.second) s.commands
    some { s with
      commands, deliveries := s.deliveries.put row.id ⟨row.nodeID, row.controllerGeneration⟩ }
  | .execute commandID succeeded summary => do
    let delivery ← s.deliveries.get? commandID
    if (s.completed.get? commandID).isNone then
      some { s with
        deliveries := s.deliveries.delete fun k _ => k = commandID
        completed := s.completed.put commandID
          ⟨delivery.nodeID, succeeded, summary, delivery.controllerGeneration⟩
        executed := s.executed ++ [commandID] }
    else none
  | .report commandID workerID => do
    let result ← s.completed.get? commandID
    some { s with
      commands := finishAgentCommand commandID result.nodeID workerID result.controllerGeneration
        result.succeeded result.summary s.commands }
  | .restartAgent nodeID =>
    some { s with deliveries := s.deliveries.delete fun _ d => d.nodeID = nodeID }
  | .forget commandID => some { s with completed := s.completed.delete fun k _ => k = commandID }
  | .activateCredential nodeID version => do
    let generation ← s.executor.db.activeGeneration
    let node ← s.executor.db.nodes.get? nodeID
    let executor ← executorStep c s.executor
      (.store (.environment (.node nodeID { node with controllerGeneration := generation })))
    if (s.credentials.get? nodeID).all (· < version) then
      some { s with
        executor, credentials := s.credentials.put nodeID version
        commands := expireNodeCommands nodeID s.commands }
    else none

/-! ## Real attempts -/

/-- The attempt is a real one: it was not refused as the repetition of another request; and if it
was answered, then about a delivery that was still pending when it began, or about one that was not
there yet, in which case a result comes from an execution after it began. -/
def StepAttempt.Real (executed : List UUID) (attempt : StepAttempt) : Prop :=
  match attempt.outcome with
  | .waiting | .abandoned => True
  | .refused error => error ≠ .agentCommandConflict
  | .answered answer =>
    (∃ row, attempt.before = some row ∧ row.state.ended = false ∧ row.id = answer.commandID) ∨
      ((∀ row, attempt.before = some row → row.id ≠ answer.commandID) ∧
        (answer.state.reported → answer.commandID ∈ executed.drop attempt.begun))

instance (executed : List UUID) (attempt : StepAttempt) : Decidable (attempt.Real executed) := by
  unfold StepAttempt.Real
  split <;> infer_instance

def Dispatcher.repeats (request : CommandRequest) (row : AgentCommand) : Bool :=
  (s.credentials.get? request.nodeID).all fun credential => request.made credential row

def Dispatcher.sendsAnew (request : CommandRequest) : Bool :=
  (s.credentials.get? request.nodeID).isNone ||
    (s.commands.get? request.operationID).all fun row =>
      !row.state.ended && s.repeats request row

/-- The steps that every attempt of their workflow makes anew: all steps of a snapshot, the account
and the receipt of a restore, and the evidence that is relayed.  The transfer of a restore and of
evidence goes by its capability, and the three steps of the resolution itself by nothing. -/
def CommandStep.perAttempt : CommandStep → Bool
  | .snapshotAccount _ | .prepareTarget _ | .startSource _ | .targetReceipt _
  | .generationRecoveryReceipt .. | .prepareRelayTarget _ | .receiveRelay | .startRelaySource
  | .restoreAccount _ | .restoreReceipt _
  | .prepareRelayEvidence _ | .uploadRelayEvidence _ | .receiveRelayEvidence _ => true
  | .prepareRestore _ | .startRestore _
  | .prepareEvidence _ | .transferEvidence .. | .evidenceReceipt _
  | .prepareResolution | .resolutionDecisions _ | .publishResolution => false

/-- The same step of the same workflow, with the same capability, and in the same attempt if every
attempt makes it anew. -/
def CommandRequest.again (earlier later : CommandRequest) : Bool :=
  earlier.workflowID = later.workflowID && earlier.step = later.step &&
    (!later.step.perAttempt || earlier.attempt = later.attempt)

/-- Where the request comes again, the earlier command is still pending, and node, payload and
credential are the same. -/
def Dispatcher.renews (later : CommandRequest) : Bool :=
  (s.credentials.get? later.nodeID).all fun credential => s.attempts.all fun _ earlier =>
    earlier.credential.isNone || !earlier.request.again later ||
      ((s.commands.get? earlier.request.operationID).any (!·.state.ended) &&
        earlier.request.nodeID = later.nodeID && earlier.request.payload = later.payload &&
        earlier.credential = some credential)

/-- The condition on a step.  The second command of a relayed receive finds the first one, if the
credential is still the same. -/
def attemptsAnew : DispatchAct → Bool
  | .attempt _ key step payload _ _ => (s.request key step payload).all s.renews
  | .enqueueAgain number _ _ => (s.attempts.get? number).all fun attempt =>
      (s.credentials.get? attempt.request.nodeID).all (attempt.credential = some ·)
  | _ => true

end

/-! ## What the queue and the agents account for -/

variable {c : RetryConfig} {s s' : Dispatcher} {commands commands' : AgentCommands}
  {executed executed' : List UUID} {attempt : StepAttempt} {request : CommandRequest}
  {row : AgentCommand} {commandID : UUID} {now : Time}

/-- The delivery `commandID` is one that a real attempt may be answered about. -/
def StepAttempt.Awaits (executed : List UUID) (attempt : StepAttempt) (commandID : UUID) : Prop :=
  (∃ row, attempt.before = some row ∧ row.state.ended = false ∧ row.id = commandID) ∨
    (attempt.before = none ∧ commandID ∉ executed.take attempt.begun)

/-- The attempt is real so far: while it waits, the queue has a row that it may be answered about.
-/
structure StepAttempt.Tracked (commands : AgentCommands) (executed : List UUID)
    (attempt : StepAttempt) : Prop where
  addressed : 0 < attempt.request.nodeID
  begun : attempt.begun ≤ executed.length
  waiting : attempt.outcome = .waiting →
    ∃ row, commands.get? attempt.request.operationID = some row ∧ attempt.Awaits executed row.id
  real : attempt.Real executed
  sent : ∀ credential ∈ attempt.credential,
    ∃ row, commands.get? attempt.request.operationID = some row ∧ attempt.request.made
    credential row

structure Progress (commands commands' : AgentCommands) (executed executed' : List UUID) :
    Prop where
  queue : QueueAdvances executed' commands commands'
  executed : executed <+: executed'

open StepAttempt

lemma StepAttempt.Real.mono (h : attempt.Real executed) (hinitial : executed <+: executed')
    (hbegun : attempt.begun ≤ executed.length) : attempt.Real executed' := by
  obtain ⟨extra, rfl⟩ := hinitial
  unfold Real at h ⊢
  split at h
  case h_4 =>
    refine h.imp_right fun ⟨hbefore, hexecuted⟩ => ⟨hbefore, fun hreported => ?_⟩
    rw [drop_append_of_le_length hbegun]
    exact mem_append_left _ (hexecuted hreported)
  all_goals exact h

lemma StepAttempt.Tracked.progress (h : attempt.Tracked commands executed)
    (hprogress : Progress commands commands' executed executed') :
    attempt.Tracked commands' executed' where
  addressed := h.addressed
  begun := Nat.le_trans h.begun hprogress.executed.length_le
  waiting hwaiting := by
    obtain ⟨row, hrow, hawaits⟩ := h.waiting hwaiting
    obtain ⟨row', hrow', hadvances⟩ := hprogress.queue.after hrow
    refine ⟨row', hrow', ?_⟩
    rw [hadvances.id]
    refine hawaits.imp_right fun ⟨hbefore, hnew⟩ => ⟨hbefore, ?_⟩
    obtain ⟨extra, hextra⟩ := hprogress.executed
    rwa [← hextra, take_append_of_le_length h.begun]
  real := h.real.mono hprogress.executed h.begun
  sent credential hcredential := by
    obtain ⟨row, hrow, hmade⟩ := h.sent credential hcredential
    obtain ⟨row', hrow', hadvances⟩ := hprogress.queue.after hrow
    refine ⟨row', hrow', ?_⟩
    obtain ⟨hnode, htype, hpayload⟩ := hadvances.request
    rwa [CommandRequest.made, hnode, htype, hpayload]

lemma StepAttempt.Awaits.real (answer : CommandAnswer)
    (h : attempt.Awaits executed answer.commandID)
    (hreported : answer.state.reported → answer.commandID ∈ executed) :
    { attempt with outcome := .answered answer }.Real executed := by
  rcases h with hpending | ⟨hbefore, hnew⟩
  · exact .inl hpending
  refine .inr ⟨fun row hrow => ?_, fun hanswer => ?_⟩
  · simp [hbefore] at hrow
  · have hmem := hreported hanswer
    rw [← take_append_drop attempt.begun executed, mem_append] at hmem
    exact hmem.resolve_left hnew

def Dispatcher.Sent (s : Dispatcher) (commandID : UUID) : Prop :=
  ∃ op row, s.commands.get? op = some row ∧ row.id = commandID

/-- Results come from executions, executions from rows of the queue, and every attempt is
tracked. -/
structure Dispatcher.Accounted (s : Dispatcher) : Prop where
  reported : ∀ op row, s.commands.get? op = some row → row.state.reported →
    row.id ∈ s.executed
  completed : ∀ id result, s.completed.get? id = some result → id ∈ s.executed
  executed : ∀ id ∈ s.executed, s.Sent id
  delivered : ∀ id delivery, s.deliveries.get? id = some delivery → s.Sent id
  attempts : ∀ number attempt, s.attempts.get? number = some attempt →
    attempt.Tracked s.commands s.executed
  recorded : ∀ op row, s.commands.get? op = some row → ∃ number attempt,
    s.attempts.get? number = some attempt ∧ attempt.credential.isSome ∧
      attempt.request.operationID = op

open Dispatcher

lemma accounted_start (db : Db) (credentials : Table NodeID ℕ) :
    (start db credentials).Accounted where
  reported _ _ h := nomatch h
  completed _ _ h := nomatch h
  executed _ h := nomatch h
  delivered _ _ h := nomatch h
  attempts _ _ h := nomatch h
  recorded _ _ h := nomatch h

lemma Dispatcher.Sent.progress (h : s.Sent commandID)
    (hqueue : QueueAdvances executed s.commands s'.commands) : s'.Sent commandID := by
  obtain ⟨op, row, hrow, hid⟩ := h
  obtain ⟨row', hrow', hadvances⟩ := hqueue.after hrow
  exact ⟨op, row', hrow', hadvances.id.trans hid⟩

lemma CommandRequest.again_iff (earlier later : CommandRequest) :
    earlier.again later ↔ earlier.operationID = later.operationID := by
  have hnames : ∀ step : CommandStep, step.namesAttempt = step.perAttempt := by
    intro step
    cases step <;> rfl
  simp only [again, operationID, deriveWorkflowOperationID, OperationID.mk.injEq,
    Bool.and_eq_true, Bool.or_eq_true, Bool.not_eq_true', decide_eq_true_eq, hnames, and_assoc]
  refine and_congr_right fun _ => and_congr_right fun hstep => ?_
  rw [hstep]
  cases later.step.perAttempt <;> simp

namespace Dispatcher.Accounted

lemma advance (h : s.Accounted) (hqueue : QueueAdvances s'.executed s.commands s'.commands)
    (hexecuted : s.executed <+: s'.executed) (hnew : ∀ id ∈ s'.executed, s.Sent id)
    (hcompleted : ∀ id result, s'.completed.get? id = some result → id ∈ s'.executed)
    (hdelivered : ∀ id delivery, s'.deliveries.get? id = some delivery → s.Sent id)
    (hattempts : s'.attempts = s.attempts) : s'.Accounted where
  reported op row' hrow' hstate := by
    obtain ⟨row, hrow, hadvances⟩ := hqueue.before hrow'
    rw [hadvances.id]
    rcases hadvances.reported hstate with hbefore | hnow
    · exact hexecuted.subset (h.reported op row hrow hbefore)
    · exact hnow
  completed := hcompleted
  executed id hid := (hnew id hid).progress hqueue
  delivered id delivery hd := (hdelivered id delivery hd).progress hqueue
  attempts number attempt hattempt :=
    (h.attempts number attempt (hattempts ▸ hattempt)).progress ⟨hqueue, hexecuted⟩
  recorded op row' hrow' := by
    obtain ⟨row, hrow, -⟩ := hqueue.before hrow'
    rw [hattempts]
    exact h.recorded op row hrow

lemma advance_queue (h : s.Accounted) (hqueue : QueueAdvances s'.executed s.commands s'.commands)
    (hexecuted : s'.executed = s.executed) (hcompleted : s'.completed = s.completed)
    (hdelivered : s'.deliveries = s.deliveries) (hattempts : s'.attempts = s.attempts) :
    s'.Accounted :=
  h.advance hqueue (hexecuted ▸ prefix_refl _) (hexecuted ▸ h.executed)
    (hexecuted ▸ hcompleted ▸ h.completed) (hdelivered ▸ h.delivered) hattempts

lemma put_attempt (h : s.Accounted) (number : ℕ)
    (hsame : ∀ old, s.attempts.get? number = some old →
      attempt.request = old.request ∧ attempt.credential = old.credential)
    (htracked : attempt.Tracked s.commands s.executed) :
    { s with attempts := s.attempts.put number attempt }.Accounted :=
  { h with
    attempts := forall_put h.attempts htracked
    recorded := fun op row hrow => by
      obtain ⟨k, old, hold, hcredential, hop⟩ := h.recorded op row hrow
      by_cases hk : k = number
      · subst hk
        obtain ⟨hrequest, hkept⟩ := hsame old hold
        exact ⟨k, attempt, get?_put_self .., hkept ▸ hcredential, hrequest ▸ hop⟩
      · exact ⟨k, old, (get?_put_of_ne hk).trans hold, hcredential, hop⟩ }

lemma send (h : s.Accounted) (attempt : StepAttempt) {number : ℕ}
    (hfresh : s.attempts.get? number = none)
    (hnone : s.commands.get? attempt.request.operationID = none) (hstate : row.state = .queued)
    (hcredential : attempt.credential.isSome)
    (htracked : attempt.Tracked (s.commands.put attempt.request.operationID row) s.executed) :
    { s with
      commands := s.commands.put attempt.request.operationID row
      attempts := s.attempts.put number attempt }.Accounted := by
  have hkept : ∀ op' row', s.commands.get? op' = some row' →
      (s.commands.put attempt.request.operationID row).get? op' = some row' := by
    intro op' row' hrow'
    have hne : op' ≠ attempt.request.operationID := by
      rintro rfl
      simp [hnone] at hrow'
    rw [get?_put_of_ne hne, hrow']
  have hsent : ∀ id, s.Sent id → { s with
      commands := s.commands.put attempt.request.operationID row
      attempts := s.attempts.put number attempt }.Sent id :=
    fun id ⟨op', row', hrow', hid⟩ => ⟨op', row', hkept op' row' hrow', hid⟩
  refine ⟨fun op' row' hrow' hreported => ?_, h.completed,
    fun id hid => hsent id (h.executed id hid),
    fun id delivery hd => hsent id (h.delivered id delivery hd),
    forall_put (fun number earlier hearlier => ?_) htracked, fun op' row' hrow' => ?_⟩
  · obtain ⟨-, rfl⟩ | hrow' := of_get?_put hrow'
    · rw [hstate] at hreported
      cases hreported
    · exact h.reported op' row' hrow' hreported
  · have htracked := h.attempts number earlier hearlier
    refine { htracked with waiting := fun hwaiting => ?_, sent := fun credential hmem => ?_ }
    · obtain ⟨row', hrow', hawaits⟩ := htracked.waiting hwaiting
      exact ⟨row', hkept _ row' hrow', hawaits⟩
    · obtain ⟨row', hrow', hmade⟩ := htracked.sent credential hmem
      exact ⟨row', hkept _ row' hrow', hmade⟩
  · obtain ⟨rfl, -⟩ | hrow' := of_get?_put hrow'
    · exact ⟨number, attempt, get?_put_self .., hcredential, rfl⟩
    obtain ⟨k, old, hold, hsent, hop⟩ := h.recorded op' row' hrow'
    refine ⟨k, old, (get?_put_of_ne ?_).trans hold, hsent, hop⟩
    rintro rfl
    cases hfresh.symm.trans hold

lemma renews_iff (h : s.Accounted) : s.renews request ↔ s.sendsAnew request := by
  cases hcredential : s.credentials.get? request.nodeID with
  | none => simp [renews, sendsAnew, hcredential]
  | some credential =>
    simp only [renews, sendsAnew, hcredential, all_some, isNone_some, Bool.false_or, repeats,
      Table.all_eq_true, Option.all_eq_true, Bool.or_eq_true, Bool.and_eq_true, Bool.not_eq_true',
      isNone_iff_eq_none, decide_eq_true_eq]
    constructor
    · intro hrenews row hrow
      obtain ⟨number, earlier, hearlier, hsent, hop⟩ := h.recorded _ row hrow
      have hagain := (CommandRequest.again_iff earlier.request request).mpr hop
      obtain ⟨⟨⟨hpending, hnode⟩, hpayload⟩, hsame⟩ :=
        (hrenews number earlier hearlier).resolve_left fun hor => by
          rcases hor with hnone | hnot
          · simp [hnone] at hsent
          · simp [hagain] at hnot
      obtain ⟨row', hrow', hmade⟩ := (h.attempts number earlier hearlier).sent credential hsame
      rw [hop] at hrow' hpending
      cases hrow.symm.trans hrow'
      rw [hrow, Option.any_some, Bool.not_eq_true'] at hpending
      refine ⟨hpending, ?_⟩
      rw [CommandRequest.again_iff] at hagain
      have hstep : earlier.request.step = request.step := congrArg OperationID.step hagain
      rwa [CommandRequest.made, ← hnode, ← hpayload, ← hstep]
    · intro hanew number earlier hearlier
      cases hsent : earlier.credential with
      | none => exact .inl (.inl rfl)
      | some credential' =>
        cases hagain : earlier.request.again request with
        | false => exact .inl (.inr rfl)
        | true =>
          have hop := (CommandRequest.again_iff _ _).mp hagain
          obtain ⟨row, hrow, hmade⟩ := (h.attempts number earlier hearlier).sent credential' hsent
          obtain ⟨hpending, hmade'⟩ := hanew row (hop ▸ hrow)
          simp only [CommandRequest.made, Bool.and_eq_true, decide_eq_true_eq] at hmade hmade'
          obtain ⟨⟨hnode, -⟩, hpayload⟩ := hmade
          obtain ⟨⟨hnode', -⟩, hpayload'⟩ := hmade'
          obtain ⟨hsame, htext⟩ := PayloadDigest.mk.inj (hpayload.symm.trans hpayload')
          refine .inr ⟨⟨⟨?_, hnode.symm.trans hnode'⟩, htext⟩, congrArg some hsame⟩
          rw [hrow, Option.any_some, hpending]
          rfl

end Dispatcher.Accounted

/-! ## Steps -/

lemma CommandRequest.params_ordinary (hnode : 0 < request.nodeID) (credential : ℕ) :
    (request.params c credential commandID now).Ordinary where
  node := hnode
  expires := Int.lt_add_of_pos_right now (Int.mul_pos (by decide) c.second_pos)
  generation := rfl
  idempotent := rfl

inductive Enqueued (s : Dispatcher) (request : CommandRequest) (commandID : UUID) :
    Except CommandError AgentCommands → Prop
  | new (row : AgentCommand) (hnone : s.commands.get? request.operationID = none)
      (hid : row.id = commandID) (hstate : row.state = .queued) (credential : ℕ)
      (hcredential : s.credentials.get? request.nodeID = some credential)
      (hmade : request.made credential row) :
      Enqueued s request commandID (.ok (s.commands.put request.operationID row))
  | kept (row : AgentCommand) (hrow : s.commands.get? request.operationID = some row)
      (hrepeats : s.repeats request row)
      (hcredential : (s.credentials.get? request.nodeID).isSome) :
      Enqueued s request commandID (.ok s.commands)
  | conflict (row : AgentCommand) (hrow : s.commands.get? request.operationID = some row)
      (hrepeats : s.repeats request row = false) :
      Enqueued s request commandID (.error .agentCommandConflict)
  | uncredentialed (hcredential : s.credentials.get? request.nodeID = none) :
      Enqueued s request commandID (.error .credentialUnavailable)
  | inactive (hnone : s.commands.get? request.operationID = none) :
      Enqueued s request commandID (.error .noActiveController)

open Dispatcher

lemma Dispatcher.enqueued (c : RetryConfig) (s : Dispatcher) (hnode : 0 < request.nodeID) :
    Enqueued s request commandID (s.enqueue c request commandID now) := by
  unfold enqueue
  cases hcredential : s.credentials.get? request.nodeID with
  | none => exact .uncredentialed hcredential
  | some credential =>
    have hordinary : (request.params c credential commandID now).Ordinary :=
      CommandRequest.params_ordinary hnode credential
    dsimp only
    cases hrow : s.commands.get? request.operationID with
    | none =>
      rw [enqueueAgentCommand_new hordinary hrow]
      cases s.executor.db.activeGeneration with
      | none => exact .inactive hrow
      | some generation =>
        exact .new _ hrow rfl rfl credential hcredential (by simp [CommandRequest.made,
          EnqueueAgentCommandParams.row, CommandRequest.params])
    | some row =>
      have hsame : s.repeats request row =
          row.sameRequest (request.params c credential commandID now) := by
        simp only [repeats, hcredential]
        rfl
      rw [enqueueAgentCommand_again hordinary hrow, ← hsame]
      cases hrepeats : s.repeats request row with
      | false => exact .conflict row hrow hrepeats
      | true => exact .kept row hrow hrepeats (by rw [hcredential]; rfl)

variable {key number : ℕ} {step : CommandStep} {payload : String}

lemma Dispatcher.request_addressed (h : s.request key step payload = some request) :
    0 < request.nodeID := by
  simp only [Dispatcher.request, bind_eq_bind, bind_eq_some_iff] at h
  obtain ⟨e, -, w, -, h⟩ := h
  obtain ⟨⟨-, hnode, -⟩, rfl⟩ := of_guarded h
  exact hnode

lemma attempt_eq_some
    (h : dispatchStep c s (.attempt number key step payload commandID now) = some s') :
    ∃ request, s.request key step payload = some request ∧ s.attempts.get? number = none ∧
      s.unused commandID ∧ ∃ result, Enqueued s request commandID result ∧ s' = { s with
          commands := result.toOption.getD s.commands, attempts := s.attempts.put number
            { request, begun := s.executed.length, before := s.commands.get? request.operationID
              credential := result.toOption.bind fun _ => s.credentials.get? request.nodeID
              outcome := match result with
                | .ok _ => .waiting
                | .error error => .refused error } } := by
  obtain ⟨request, hrequest, ⟨hfresh, hunused⟩, h⟩ := of_bind_guarded h
  exact ⟨request, hrequest, isNone_iff_eq_none.mp hfresh, hunused, _,
    s.enqueued c (request_addressed hrequest), (some.inj h).symm⟩

namespace Dispatcher.Accounted

section

variable (h : s.Accounted)
include h

lemma new_attempt (hmeets : attemptsAnew s (.attempt number key step payload commandID now))
    (hstep : dispatchStep c s (.attempt number key step payload commandID now) = some s') :
    s'.Accounted := by
  obtain ⟨request, hrequest, hfresh, hunused, result, henqueued, rfl⟩ := attempt_eq_some hstep
  have hnode := request_addressed hrequest
  have hnew : ∀ old, s.attempts.get? number = some old → False := fun old hold => by
    cases hfresh.symm.trans hold
  have hanew : s.sendsAnew request := by
    refine h.renews_iff.mp ?_
    simpa only [attemptsAnew, hrequest, all_some] using hmeets
  have hfound : ∀ row, (s.credentials.get? request.nodeID).isSome →
      s.commands.get? request.operationID = some row →
      row.state.ended = false ∧ s.repeats request row := by
    intro row hcredential hrow
    obtain ⟨credential, hcredential⟩ := isSome_iff_exists.mp hcredential
    simpa [sendsAnew, hcredential, hrow] using hanew
  cases henqueued with
  | new row hnone hid hstate credential hcredential hmade =>
    refine h.send ⟨request, s.credentials.get? request.nodeID, s.executed.length,
      s.commands.get? request.operationID, .waiting⟩ hfresh hnone hstate (by simp [hcredential])
      ⟨hnode, Nat.le_refl _, fun _ => ⟨row, get?_put_self .., .inr ⟨hnone, fun hmem => ?_⟩⟩,
        trivial, fun credential' hcredential' => ⟨row, get?_put_self .., ?_⟩⟩
    · obtain ⟨op, row', hrow', hid'⟩ := h.executed row.id (mem_of_mem_take hmem)
      have hother := all_eq_true.mp hunused op row' hrow'
      simp only [ne_eq, decide_eq_true_eq] at hother
      exact hother (hid'.trans hid)
    · cases hcredential.symm.trans hcredential'
      exact hmade
  | kept row hrow hrepeats hcredential =>
    refine h.put_attempt number (fun old hold => (hnew old hold).elim) ⟨hnode, Nat.le_refl _,
      fun _ => ⟨row, hrow, .inl ⟨row, hrow, (hfound row hcredential hrow).1, rfl⟩⟩, trivial,
      fun credential hmem => ⟨row, hrow, ?_⟩⟩
    have hmem : s.credentials.get? request.nodeID = some credential := hmem
    simpa only [repeats, hmem, all_some] using hrepeats
  | conflict row hrow hrepeats =>
    exfalso
    have hcredential : (s.credentials.get? request.nodeID).isSome := by
      cases hnone : s.credentials.get? request.nodeID with
      | none => simp [repeats, hnone] at hrepeats
      | some credential => rfl
    simp [(hfound row hcredential hrow).2] at hrepeats
  | uncredentialed | inactive =>
    exact h.put_attempt number (fun old hold => (hnew old hold).elim)
      ⟨hnode, Nat.le_refl _, nofun, by simp [StepAttempt.Real], nofun⟩

lemma set_outcome (hattempt : s.attempts.get? number = some attempt) {outcome : AttemptOutcome}
    (houtcome : outcome ≠ .waiting)
    (hreal : { attempt with outcome }.Real s.executed) :
    { s with attempts := s.attempts.put number { attempt with outcome } }.Accounted := by
  have htracked := h.attempts number attempt hattempt
  refine h.put_attempt number (fun old hold => ?_)
    ⟨htracked.addressed, htracked.begun, fun hwaiting => absurd hwaiting houtcome, hreal,
      htracked.sent⟩
  cases hattempt.symm.trans hold
  exact ⟨rfl, rfl⟩

lemma enqueueAgain (hmeets : attemptsAnew s (.enqueueAgain number commandID now))
    (hstep : dispatchStep c s (.enqueueAgain number commandID now) = some s') : s'.Accounted := by
  obtain ⟨attempt, hattempt, ⟨hwaiting, -⟩, hstep⟩ := of_bind_guarded hstep
  have htracked := h.attempts number attempt hattempt
  obtain ⟨row, hrow, -⟩ := htracked.waiting hwaiting
  have hrepeats : s.repeats attempt.request row := by
    simp only [attemptsAnew, hattempt, all_some] at hmeets
    refine (Option.all_eq_true _ _).mpr fun credential hcredential => ?_
    have hsame := of_decide_eq_true ((Option.all_eq_true _ _).mp hmeets credential hcredential)
    obtain ⟨row', hrow', hmade⟩ := htracked.sent credential hsame
    exact mem_unique hrow hrow' ▸ hmade
  have henqueued : Enqueued s attempt.request commandID
      (s.enqueue c attempt.request commandID now) := s.enqueued c htracked.addressed
  generalize s.enqueue c attempt.request commandID now = result at henqueued hstep
  cases henqueued with
  | new _ hnone | inactive hnone =>
    simp [hnone] at hrow
  | kept =>
    cases hstep
    exact h
  | conflict row' hrow' hother =>
    obtain rfl := mem_unique hrow hrow'
    simp [hrepeats] at hother
  | uncredentialed =>
    cases hstep
    exact h.set_outcome hattempt nofun (by simp [StepAttempt.Real])

lemma poll (hstep : dispatchStep c s (.poll number now) = some s') : s'.Accounted := by
  obtain ⟨attempt, hattempt, hwaiting, hstep⟩ := of_bind_guarded hstep
  obtain ⟨row, hrow, hstep⟩ := bind_eq_some_iff.mp hstep
  have hexpired :
      { s with
        commands := expireQueuedCommand attempt.request.operationID now s.commands }.Accounted :=
    h.advance_queue expireQueuedCommand_advances rfl rfl rfl rfl
  split at hstep
  · cases hstep
    have htracked := hexpired.attempts number attempt hattempt
    obtain ⟨row', hrow', hawaits⟩ := htracked.waiting hwaiting
    obtain rfl := mem_unique hrow hrow'
    exact hexpired.set_outcome hattempt nofun
      (hawaits.real ⟨row.id, row.state, row.resultSummary⟩ (hexpired.reported _ row hrow))
  · cases hstep
    exact hexpired

lemma execute {succeeded : Bool} {summary : CommandSummary}
    (hstep : dispatchStep c s (.execute commandID succeeded summary) = some s') : s'.Accounted := by
  obtain ⟨delivery, hdelivery, -, ⟨⟩⟩ := of_bind_guarded hstep
  refine h.advance (.refl _ _) (prefix_append _ _) (fun id hid => ?_)
    (forall_put (fun id result hr => ?_) ?_) (forall_delete h.delivered) rfl
  · rcases mem_append.mp hid with hold | hnew
    · exact h.executed id hold
    · obtain rfl := mem_singleton.mp hnew
      exact h.delivered id delivery hdelivery
  · exact mem_append_left _ (h.completed id result hr)
  · exact mem_append_right _ (mem_singleton.mpr rfl)

lemma acknowledge {operationID : OperationID} {workerID : UUID} {legacy : Bool}
    (hstep : dispatchStep c s (.acknowledge operationID workerID legacy now) = some s') :
    s'.Accounted := by
  simp only [dispatchStep, bind_eq_bind, bind_eq_some_iff] at hstep
  obtain ⟨row, hrow, commands, hack, ⟨⟩⟩ := hstep
  exact h.advance (ackAgentCommand_advances hack) (prefix_refl _) h.executed h.completed
    (forall_put h.delivered ⟨operationID, row, hrow, rfl⟩) rfl

lemma after_step {act : DispatchAct} (hmeets : attemptsAnew s act)
    (hstep : dispatchStep c s act = some s') : s'.Accounted := by
  cases act with
  | executor act =>
    simp only [dispatchStep, bind_eq_bind, bind_eq_some_iff] at hstep
    obtain ⟨executor, -, hstep⟩ := hstep
    split at hstep
    · cases hstep
      exact h.advance_queue (.refl _ _) rfl rfl rfl rfl
    · cases hstep
      exact h.advance_queue expireNodeCommands_advances rfl rfl rfl rfl
  | attempt => exact h.new_attempt hmeets hstep
  | enqueueAgain => exact h.enqueueAgain hmeets hstep
  | poll => exact h.poll hstep
  | abandon number =>
    obtain ⟨attempt, hattempt, -, ⟨⟩⟩ := of_bind_guarded hstep
    exact h.set_outcome hattempt nofun trivial
  | lease =>
    obtain ⟨commands, hlease, ⟨⟩⟩ := bind_eq_some_iff.mp hstep
    exact h.advance_queue (leaseAgentCommand_advances hlease) rfl rfl rfl rfl
  | clampLeases =>
    cases hstep
    exact h.advance_queue clampAgentCommandRunLeases_advances rfl rfl rfl rfl
  | acknowledge => exact h.acknowledge hstep
  | execute => exact h.execute hstep
  | report commandID workerID =>
    obtain ⟨result, hresult, ⟨⟩⟩ := bind_eq_some_iff.mp hstep
    exact h.advance_queue (finishAgentCommand_advances (h.completed commandID result hresult))
      rfl rfl rfl rfl
  | restartAgent =>
    cases hstep
    exact h.advance (.refl _ _) (prefix_refl _) h.executed h.completed
      (forall_delete h.delivered) rfl
  | forget commandID =>
    cases hstep
    exact h.advance (.refl _ _) (prefix_refl _) h.executed (forall_delete h.completed)
      h.delivered rfl
  | activateCredential =>
    simp only [dispatchStep, bind_eq_bind, bind_eq_some_iff] at hstep
    obtain ⟨generation, -, node, -, executor, -, hstep⟩ := hstep
    obtain ⟨-, rfl⟩ := of_guarded hstep
    exact h.advance_queue expireNodeCommands_advances rfl rfl rfl rfl

end

end Dispatcher.Accounted

/-! ## Whole runs -/

lemma attempt_answered_by_record (h : s.Accounted)
    (hstep : dispatchStep c s (.attempt number key step payload commandID now) = some s')
    (hmeets : attemptsAnew s (.attempt number key step payload commandID now) = false) :
    ∃ attempt, s'.attempts.get? number = some attempt ∧
      (attempt.outcome = .refused .agentCommandConflict ∨
        ∀ later s'', dispatchStep c s' (.poll number later) = some s'' →
          ∃ answered, s''.attempts.get? number = some answered ∧ ¬ answered.Real s''.executed) := by
  obtain ⟨request, hrequest, -, -, result, henqueued, rfl⟩ := attempt_eq_some hstep
  refine ⟨_, get?_put_self .., ?_⟩
  have hanew : s.sendsAnew request = false := by
    simp only [attemptsAnew, hrequest, Option.all_some] at hmeets
    rw [← Bool.not_eq_true, ← h.renews_iff, hmeets]
    exact nofun
  simp only [sendsAnew, Bool.or_eq_false_iff, isNone_eq_false_iff, Option.all_eq_false] at hanew
  obtain ⟨hcredential, row, hrow, hfound⟩ := hanew
  cases henqueued with
  | new _ hnone | inactive hnone =>
    simp [hrow] at hnone
  | uncredentialed hnone =>
    simp [hnone] at hcredential
  | conflict => exact .inl rfl
  | kept row' hrow' hrepeats =>
    obtain rfl := mem_unique hrow hrow'
    have hended : row.state.ended := by simpa [hrepeats] using hfound
    right
    intro later s'' hpoll
    simp only [dispatchStep, bind_eq_bind, bind_eq_some_iff, get?_put_self, some.injEq,
      exists_eq_left', ↓reduceIte, Except.toOption, getD_some,
      get?_expireQueuedCommand_of_ended hrow hended, hended] at hpoll
    subst hpoll
    refine ⟨_, get?_put_self .., ?_⟩
    rintro (⟨before, hbefore, hpending, -⟩ | ⟨hother, -⟩)
    · obtain rfl := mem_unique hrow hbefore
      simp [hended] at hpending
    · exact hother row hrow rfl

/-- **When retries are real.**  Take a run that starts with an empty queue, and in which a step of a
workflow that was sent is not attempted again with the same capability, nor, where every attempt of
the workflow makes it anew, in the same attempt, unless the first command is still pending for the
same node, payload and credential.  Then every attempt is real.  The first attempt that does not
meet the condition is refused as a conflicting repetition or answered from the record of an attempt
that was over. -/
theorem attempts_executed {db₀ : Db} {credentials : Table NodeID ℕ} {acts : List DispatchAct}
    (hmeets : Meets (dispatchStep c) (fun t act => attemptsAnew t act = true)
      (start db₀ credentials) acts)
    (hrun : run (dispatchStep c) (start db₀ credentials) acts = some s) :
    (∀ number attempt, s.attempts.get? number = some attempt → attempt.Real s.executed) ∧
    ∀ number key step payload commandID now t,
      dispatchStep c s (.attempt number key step payload commandID now) = some t →
      attemptsAnew s (.attempt number key step payload commandID now) = false →
      ∃ attempt, t.attempts.get? number = some attempt ∧
        (attempt.outcome = .refused .agentCommandConflict ∨
          ∀ later u, dispatchStep c t (.poll number later) = some u →
            ∃ answered, u.attempts.get? number = some answered ∧ ¬ answered.Real u.executed) := by
  have haccounted : s.Accounted :=
    run_invariant_of_meets (fun _ _ _ h => h.after_step) (accounted_start db₀ credentials)
      hmeets hrun
  exact ⟨fun number attempt hattempt => (haccounted.attempts number attempt hattempt).real,
    fun _ _ _ _ _ _ _ => attempt_answered_by_record haccounted⟩

/-! ## A retry that is real, and one that is not -/

def carriedOut (operationID : OperationID) (commandID : UUID) (succeeded : Bool) (now : Time) :
    List DispatchAct :=
  [ .lease operationID 7 now, .acknowledge operationID 7 false now,
    .execute commandID succeeded ⟨succeeded, ""⟩, .report commandID 7 ]

def sampleCredentials : Table NodeID ℕ := ((put ∅ 1 1).put 2 1).put 3 1

/-- An archive of the home is created, its target fails to prepare, and the workflow is retried with
a new capability; the second time the target prepares. -/
def snapshotRetried : List DispatchAct :=
  (((sampleTransfer 50 1 3 .archive 10).take 2 ++ [Act.startSnapshotWorkflow 50]).map fun act =>
    .executor (.store act)) ++
  [ .executor (.load 0 50 20), .attempt 0 0 (.prepareTarget 50) "prepare" 1000 21 ] ++
  carriedOut (deriveWorkflowOperationID 50 (.prepareTarget 50) 0) 1000 false 22 ++
  [ .poll 0 23, .executor (.fail 0 .step 24), .executor (.load 1 50 60),
    .executor (.store (.rotateSnapshotCapability 50 51 51 900 61)), .executor (.reload 1),
    .attempt 1 1 (.prepareTarget 51) "prepare" 1001 62 ] ++
  carriedOut (deriveWorkflowOperationID 50 (.prepareTarget 51) 1) 1001 true 63 ++
  [ .poll 1 64 ]

def snapshotRetriedState : Dispatcher :=
  (run (dispatchStep sampleRetries) (.start sampleDb sampleCredentials) snapshotRetried).getD
    (.start sampleDb sampleCredentials)

theorem attempts_executed_snapshot :
    run (dispatchStep sampleRetries) (.start sampleDb sampleCredentials) snapshotRetried =
        some snapshotRetriedState ∧ snapshotRetriedState.executed = [1000, 1001] ∧
      ∃ attempt, snapshotRetriedState.attempts.get? 1 = some attempt ∧
        attempt.outcome = .answered ⟨1001, .succeeded, some ⟨true, ""⟩⟩ ∧
        attempt.Real snapshotRetriedState.executed := by
  have hrun : run (dispatchStep sampleRetries) (.start sampleDb sampleCredentials)
      snapshotRetried = some snapshotRetriedState := rfl
  obtain ⟨attempt, hattempt, houtcome⟩ : ∃ attempt ∈ snapshotRetriedState.attempts.get? 1,
      attempt.outcome = .answered ⟨1001, .succeeded, some ⟨true, ""⟩⟩ := by decide +kernel
  exact ⟨hrun, by decide +kernel, attempt, hattempt, houtcome,
    (attempts_executed (by decide +kernel) hrun).1 1 attempt hattempt⟩

/-- The user, registered on node `1`, has data on node `2` as well and resolves the conflict in
favour of node `2`.  The node fails to prepare the resolution, the workflow is retried, and the next
execution comes to the same step. -/
def resolutionRetried : List DispatchAct :=
  ((.linkImportCandidate 2 "user" false 100 :: sampleDecision 2 1 110) : List Act).map
    (fun act => .executor (.store act)) ++
  [ .executor (.load 0 93 150), .attempt 0 0 .prepareResolution "prepare" 1000 151 ] ++
  carriedOut (deriveWorkflowOperationID 93 .prepareResolution 0) 1000 false 152 ++
  [ .poll 0 153, .executor (.fail 0 .step 154), .executor (.load 1 93 200),
    .attempt 1 1 .prepareResolution "prepare" 1001 201, .poll 1 202 ]

def resolutionRetriedState : Dispatcher :=
  (run (dispatchStep sampleRetries) (.start sampleDb sampleCredentials) resolutionRetried).getD
    (.start sampleDb sampleCredentials)

/-- **The retry of a resolution is not real.**  Its first step was executed once, before the second
attempt began; the second attempt is answered with the failure of the first. -/
theorem resolution_retry_answered_by_record :
    run (dispatchStep sampleRetries) (.start sampleDb sampleCredentials) resolutionRetried =
        some resolutionRetriedState ∧ resolutionRetriedState.executed = [1000] ∧
      ∃ attempt, resolutionRetriedState.attempts.get? 1 = some attempt ∧
        attempt.begun = 1 ∧ attempt.outcome = .answered ⟨1000, .failed, some ⟨false, ""⟩⟩ ∧
        ¬ attempt.Real resolutionRetriedState.executed :=
  ⟨rfl, by decide +kernel⟩

end StControl.Controller
