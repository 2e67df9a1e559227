import StControl.Store.Reconciliations

/-!
# The control mode of a node

An agent that loses its controller leaves the managed mode: first `controller-unreachable`, then,
when two further kinds of evidence confirm the outage, `independent`, in which the node admits
logins of its own.  It comes back through `independent-draining`.  Each change of the mode carries a
generation that both ends compare, so that a late decision cannot undo a newer change.

The first half of this module embeds the two ends, the second half runs them against each other.
The agent sends one heartbeat at a time; the answer to it is in flight until it is delivered, and it
is lost when the agent records a failure or restarts.  Every save succeeds, so what an agent
restarts from is its state.

The invariant is `ControlLink.Paired`: the recorded generation is at most the agent's and equal only
for the same mode, and a decision in flight either repeats the mode and the generation of the agent
or carries a larger generation.  Instants are in seconds.
-/

namespace StControl.Agent

open Run
open Store (ControlMode NodeRole Time Duration desiredControlMode)

variable {generation : ℤ}

/-! ## The state of the agent -/

/-- `agentControlModeState`; an unset time and an empty adapter mode are `none`. -/
structure ControlModeState where
  mode : ControlMode
  adapterMode : Option ControlMode
  (adapterControllerGeneration modeGeneration controllerGeneration : ℤ)
  reasonCode : String
  (consecutiveHeartbeatFails consecutiveHealthProbeFails consecutivePeerWitnessFails : ℕ)
  (outageStartedAt confirmedOutageStartedAt lastControllerSuccessAt independentSince : Option Time)
  changedAt : Time
  (activeIndependentSessions pendingUserSyncs : ℕ)
  deriving DecidableEq

structure ModeRuntime where
  control : ControlModeState
  highestGeneration : ℤ
  pendingIndependentUsers : List String
  deriving DecidableEq

structure AgentDisasterPolicy where
  (unreachableAfterSec independentAfterSec minFailedHeartbeats : ℤ)
  deriving DecidableEq

/-- The policy of `config.DefaultAgent`. -/
def AgentDisasterPolicy.default : AgentDisasterPolicy where
  unreachableAfterSec := 45
  independentAfterSec := 15 * 60
  minFailedHeartbeats := 4

structure NormalizedDisasterPolicy where
  (unreachableAfter independentAfter : Duration)
  minFailures : ℤ

open AgentDisasterPolicy

def normalizeDisasterPolicy (policy : AgentDisasterPolicy) : NormalizedDisasterPolicy :=
  let unreachable :=
    if policy.unreachableAfterSec ≤ 0 then default.unreachableAfterSec
    else policy.unreachableAfterSec
  { unreachableAfter := unreachable
    independentAfter :=
      if policy.independentAfterSec ≤ unreachable then
        default.independentAfterSec
      else policy.independentAfterSec
    minFailures :=
      if policy.minFailedHeartbeats < 2 then default.minFailedHeartbeats
      else policy.minFailedHeartbeats }

/-- The configuration of the agent: its role, its disaster policy and the controller generation it
was enrolled with. -/
structure ModeConfig where
  nodeID : Store.NodeID
  role : NodeRole
  disaster : AgentDisasterPolicy
  controllerGeneration : ℤ

/-! ## The functions of the agent -/

namespace ControlModeState

/-- The end of `recordControllerFailure` and of `recordControllerSuccess`: a new mode takes a new
generation, and the adapter has still to apply it. -/
def changeMode (mode : ControlMode) (generation : ℤ) (now : Time)
    (state : ControlModeState) : ControlModeState :=
  if mode ≠ state.mode then
    { state with mode := mode, modeGeneration := generation, changedAt := now, adapterMode := none }
  else state

/-- The counters and the start of the outages, as `recordControllerFailure` updates them first. -/
def countFailure (now : Time) (healthProbeFailed peerQuorumConfirmed : Bool)
    (state : ControlModeState) : ControlModeState :=
  let confirmed := healthProbeFailed && peerQuorumConfirmed
  { state with
    consecutiveHeartbeatFails := state.consecutiveHeartbeatFails + 1
    consecutiveHealthProbeFails :=
      if healthProbeFailed then state.consecutiveHealthProbeFails + 1 else 0
    confirmedOutageStartedAt :=
      if confirmed then
        if state.consecutivePeerWitnessFails = 0 then some now
        else some (state.confirmedOutageStartedAt.getD now)
      else none
    consecutivePeerWitnessFails :=
      if confirmed then state.consecutivePeerWitnessFails + 1 else 0
    outageStartedAt := some (state.outageStartedAt.getD now) }

/-- The evidence for `independent`: a confirmed outage that has lasted, and enough failures of each
of the three kinds. -/
def sustainedLoss (policy : NormalizedDisasterPolicy) (now : Time)
    (state : ControlModeState) : Bool :=
  state.confirmedOutageStartedAt.any (fun start => policy.independentAfter ≤ now - start) &&
    policy.minFailures ≤ state.consecutiveHeartbeatFails &&
    policy.minFailures ≤ state.consecutiveHealthProbeFails &&
    policy.minFailures ≤ state.consecutivePeerWitnessFails

/-- `recordControllerFailure` under a policy that is normalized. -/
def recordFailureUnder (policy : NormalizedDisasterPolicy) (role : NodeRole) (now : Time)
    (healthProbeFailed peerQuorumConfirmed : Bool) (old : ControlModeState) : ControlModeState :=
  let state := old.countFailure now healthProbeFailed peerQuorumConfirmed
  let elapsed := now - state.outageStartedAt.getD now
  -- A disputed outage closes the node for new independent logins at once.
  let disputed := state.mode = .independent ∧ ¬ (healthProbeFailed ∧ peerQuorumConfirmed)
  let mode := if disputed then .independentDraining else state.mode
  let reason := if disputed then "controller_loss_evidence_disputed" else state.reasonCode
  let unreachable := mode = .managed ∧ policy.unreachableAfter ≤ elapsed
  let mode := if unreachable then .controllerUnreachable else mode
  let reason := if unreachable then "controller_heartbeat_timeout" else reason
  let independent :=
    role = .compute ∧ mode ≠ .independentDraining ∧ state.sustainedLoss policy now
  let mode := if independent then .independent else mode
  let reason := if independent then "sustained_peer_confirmed_controller_loss" else reason
  let since := if independent then some (state.independentSince.getD now) else
    state.independentSince
  { state.changeMode mode (state.modeGeneration + 1) now with
    reasonCode := reason, independentSince := since }

def recordControllerFailure (config : ModeConfig) : Time → Bool → Bool → ControlModeState →
    ControlModeState :=
  recordFailureUnder (normalizeDisasterPolicy config.disaster) config.role

end ControlModeState

/-- `acceptGeneration`: none below the highest generation seen; a larger one is remembered. -/
def ModeRuntime.acceptGeneration (generation : ℤ) (s : ModeRuntime) : Option ModeRuntime :=
  if generation < s.highestGeneration then none
  else some { s with highestGeneration := generation }

/-- The fields of `protocol.HeartbeatResponse` that decide about the mode, and the outcome of the
checks of those that do not: `acknowledgementsValid` for the acknowledged takeovers and
`leasesValid` for the activity lease confirmations. -/
structure HeartbeatResponse where
  controllerGeneration : ℤ
  desiredMode : ControlMode
  modeGeneration : ℤ
  (acknowledgementsValid leasesValid : Bool)
  deriving DecidableEq

/-- The errors of `recordControllerSuccess`. -/
inductive ModeRejection
  | controllerGenerationRollback | invalidModeResponse | invalidAcknowledgements
  | modeGenerationRollback | skipsDraining | modeGenerationReuse | leaseConfirmations
  deriving DecidableEq

/-- `desired` of `recordControllerSuccess`: an independent agent drains first. -/
def ControlModeState.desired (response : HeartbeatResponse) (state : ControlModeState) :
    ControlMode :=
  if state.mode = .independent ∧ response.desiredMode = .managed then .independentDraining
  else response.desiredMode

/-- The checks of `recordControllerSuccess` behind `acceptGeneration`, in their order. -/
def ControlModeState.rejects (response : HeartbeatResponse) (state : ControlModeState) :
    Option ModeRejection :=
  if response.modeGeneration ≤ 0 then some .invalidModeResponse
  else if response.acknowledgementsValid = false then some .invalidAcknowledgements
  else if response.modeGeneration < state.modeGeneration then some .modeGenerationRollback
  else if state.mode = .independentDraining ∧ state.desired response = .managed ∧
      (0 < state.activeIndependentSessions ∨ 0 < state.pendingUserSyncs) then
    some .skipsDraining
  else if response.modeGeneration = state.modeGeneration ∧ state.desired response ≠ state.mode then
    some .modeGenerationReuse
  else if response.leasesValid = false then some .leaseConfirmations
  else none

/-- What `recordControllerSuccess` writes once the response has passed. -/
def ControlModeState.applyDecision (now : Time) (response : HeartbeatResponse)
    (old : ControlModeState) : ControlModeState :=
  let desired := old.desired response
  let state : ControlModeState :=
    { old with
      lastControllerSuccessAt := some now, outageStartedAt := none, confirmedOutageStartedAt := none
      consecutiveHeartbeatFails := 0, consecutiveHealthProbeFails := 0
      consecutivePeerWitnessFails := 0, controllerGeneration := response.controllerGeneration }
  if desired = old.mode then state
  else
    let changed := state.changeMode desired response.modeGeneration now
    match desired with
    | .managed => { changed with reasonCode := "controller_reconciled", independentSince := none }
    | .independentDraining => { changed with reasonCode := "controller_recovered" }
    | _ => changed

/-- `recordControllerSuccess`: the runtime state after it, and the error it returns.  A new
controller generation is remembered even when the rest of the response is rejected. -/
def ModeRuntime.recordControllerSuccess (now : Time) (response : HeartbeatResponse)
    (s : ModeRuntime) : ModeRuntime × Option ModeRejection :=
  if response.controllerGeneration ≤ 0 then (s, some .controllerGenerationRollback)
  else
    match s.acceptGeneration response.controllerGeneration with
    | none => (s, some .controllerGenerationRollback)
    | some s =>
      match s.control.rejects response with
      | some rejection => (s, some rejection)
      | none => ({ s with control := s.control.applyDecision now response }, none)

/-- `protocol.ApplyNodeControlModeResponse`. -/
structure AdapterResponse where
  ok : Bool
  appliedMode : ControlMode
  (modeGeneration activeIndependentSessions pendingUserSyncs : ℤ)
  deriving DecidableEq

def ModeRuntime.adapterCurrent (s : ModeRuntime) : Bool :=
  s.control.adapterMode = some s.control.mode &&
    s.highestGeneration ≤ s.control.adapterControllerGeneration

def ModeRuntime.answersMode (response : AdapterResponse) (s : ModeRuntime) : Bool :=
  response.ok && response.appliedMode = s.control.mode &&
    response.modeGeneration = s.control.modeGeneration &&
    0 ≤ response.activeIndependentSessions && 0 ≤ response.pendingUserSyncs

section

variable (config : ModeConfig)

/-- `syncTavernControlMode`; `none` is a call of the adapter that fails. -/
def ModeRuntime.syncTavernControlMode (answer : Option AdapterResponse) (s : ModeRuntime) :
    ModeRuntime :=
  if s.adapterCurrent then s
  else if config.role = .storage then
    { s with control :=
      { s.control with
        adapterMode := some s.control.mode, adapterControllerGeneration := s.highestGeneration } }
  else
    match answer with
    | none => s
    | some response =>
      if s.answersMode response then
        { s with control :=
          { s.control with
            adapterMode := some response.appliedMode
            adapterControllerGeneration := s.highestGeneration
            activeIndependentSessions := response.activeIndependentSessions.toNat
            pendingUserSyncs := response.pendingUserSyncs.toNat } }
      else s

/-- `recordAdapterSessionFacts`: the adapter lists its users and those still to be synchronised. -/
def ModeRuntime.recordAdapterSessionFacts (activeIndependent : ℕ) (pending : List String)
    (s : ModeRuntime) : ModeRuntime :=
  { s with
    control :=
      { s.control with
        activeIndependentSessions := activeIndependent, pendingUserSyncs := pending.length }
    pendingIndependentUsers := pending }

/-- The mode of a state that `loadRuntimeState` finds for the first time. -/
def ControlModeState.initial (now : Time) : ControlModeState where
  mode := .managed
  adapterMode := some .managed
  adapterControllerGeneration := 0
  modeGeneration := 1
  controllerGeneration := 0
  reasonCode := ""
  consecutiveHeartbeatFails := 0
  consecutiveHealthProbeFails := 0
  consecutivePeerWitnessFails := 0
  outageStartedAt := none
  confirmedOutageStartedAt := none
  lastControllerSuccessAt := none
  independentSince := none
  changedAt := now
  activeIndependentSessions := 0
  pendingUserSyncs := 0

/-- `loadRuntimeState` on a saved state: an independent mode without witness evidence drains. -/
def ModeRuntime.loadRuntimeState (now : Time) (s : ModeRuntime) : ModeRuntime :=
  { s with
    highestGeneration := max s.highestGeneration config.controllerGeneration
    control :=
      if s.control.mode = .independent ∧ s.control.consecutivePeerWitnessFails = 0 then
        { s.control.changeMode .independentDraining (s.control.modeGeneration + 1) now with
          reasonCode := "legacy_independent_without_peer_witness" }
      else s.control }

/-! ## The row of the node -/

/-- The mode columns of `nodes`. -/
structure ModeRow where
  controlMode : ControlMode
  controlModeGeneration : ℤ
  desiredControlMode : ControlMode
  desiredModeGeneration : ℤ
  deriving DecidableEq

def ModeRow.default : ModeRow where
  controlMode := .managed
  controlModeGeneration := 1
  desiredControlMode := .managed
  desiredModeGeneration := 1

/-- The errors of `reconcileNodeControlModeAuthenticated`. -/
inductive ModeError
  | invalidFact | staleControllerMode | staleNodeControlMode | storageIndependent
  deriving DecidableEq

structure NodeControlModeDecision where
  controllerGeneration : ℤ
  desiredMode : ControlMode
  modeGeneration : ℤ
  deriving DecidableEq

/-- What the controller knows besides the report: the database, the active generation, the
generation of the credential that signed the heartbeat, whether a rebuild still awaits the node, and
the outcome of the checks of the fields that do not decide about the mode. -/
structure HeartbeatContext where
  db : Store.Db
  (activeGeneration authenticatedGeneration : ℤ)
  (rebuildAwaits otherFactsValid : Bool)

/-- `validNodeControlModeFact` of the report of the agent. -/
def ModeRuntime.validNodeControlModeFact (ctx : HeartbeatContext) (s : ModeRuntime) : Bool :=
  0 < s.control.modeGeneration && 0 < s.highestGeneration && ctx.otherFactsValid &&
    s.pendingIndependentUsers.length = s.control.pendingUserSyncs &&
    s.pendingIndependentUsers.length ≤ 500 &&
    !(s.control.mode = .independent &&
      (s.control.independentSince = none || s.control.confirmedOutageStartedAt = none ||
        s.control.consecutivePeerWitnessFails = 0))

def ModeRuntime.wanted (ctx : HeartbeatContext) (s : ModeRuntime) : ControlMode :=
  desiredControlMode ctx.db config.nodeID s.control.activeIndependentSessions
    s.control.pendingUserSyncs s.control.mode

/-- `desiredGeneration`: the reported generation for the reported mode; for another mode, the one
already handed out for the same report, or a new one. -/
def ModeRow.desiredGeneration (desired mode : ControlMode) (generation : ℤ) (row : ModeRow) : ℤ :=
  if desired = mode then generation
  else if row.controlMode = mode ∧ row.controlModeGeneration = generation ∧
      row.desiredControlMode = desired ∧ generation < row.desiredModeGeneration then
    row.desiredModeGeneration
  else max generation row.desiredModeGeneration + 1

/-- `reconcileNodeControlModeAuthenticated` on the report that `controlModeReport` makes of the
state.  A credential of an earlier generation only has its report echoed. -/
def reconcileNodeControlMode (ctx : HeartbeatContext) (s : ModeRuntime) (row : ModeRow) :
    Except ModeError (ModeRow × NodeControlModeDecision) :=
  let mode := s.control.mode
  let generation := s.control.modeGeneration
  if s.validNodeControlModeFact ctx = false then .error .invalidFact
  else if ctx.authenticatedGeneration ≤ 0 then .error .staleControllerMode
  else if ctx.activeGeneration < ctx.authenticatedGeneration ∨
      ctx.activeGeneration < s.highestGeneration then
    .error .staleControllerMode
  else if ctx.authenticatedGeneration = ctx.activeGeneration then
    if s.highestGeneration ≠ ctx.activeGeneration then .error .staleControllerMode
    else if generation < row.controlModeGeneration ∨
        (generation = row.controlModeGeneration ∧ mode ≠ row.controlMode) then
      .error .staleNodeControlMode
    else if config.role ≠ .compute ∧ (mode = .independent ∨ mode = .independentDraining) then
      .error .storageIndependent
    else
      let desired := s.wanted config ctx
      let desiredGeneration := row.desiredGeneration desired mode generation
      .ok (⟨mode, generation, desired, desiredGeneration⟩,
        ⟨ctx.activeGeneration, desired, desiredGeneration⟩)
  else if ctx.rebuildAwaits = false ∨ s.highestGeneration < ctx.authenticatedGeneration then
    .error .staleControllerMode
  else .ok (row, ⟨ctx.activeGeneration, mode, generation⟩)

/-! ## The two ends together -/

/-- The agent, its row, and the decision that the controller has committed and the agent has not
received. -/
structure ControlLink where
  agent : ModeRuntime
  row : ModeRow
  inFlight : Option NodeControlModeDecision
  deriving DecidableEq

inductive ModeAct
  /-- The agent sends a heartbeat and the controller answers it. -/
  | heartbeat (ctx : HeartbeatContext)
  /-- The answer reaches the agent, with the rest of the response. -/
  | deliver (now : Time) (acknowledgementsValid leasesValid : Bool)
  /-- The heartbeat has failed for the agent, and an answer in flight is lost. -/
  | failure (now : Time) (healthProbeFailed peerQuorumConfirmed : Bool)
  /-- The agent starts again from its saved state. -/
  | restart (now : Time)
  /-- The agent asks the adapter to apply the mode. -/
  | syncMode (answer : Option AdapterResponse)
  /-- The adapter has listed its users. -/
  | sessionFacts (activeIndependent : ℕ) (pending : List String)
  /-- A command of the controller shows its generation. -/
  | command (generation : ℤ)

def NodeControlModeDecision.response (decision : NodeControlModeDecision)
    (acknowledgementsValid leasesValid : Bool) : HeartbeatResponse where
  controllerGeneration := decision.controllerGeneration
  desiredMode := decision.desiredMode
  modeGeneration := decision.modeGeneration
  acknowledgementsValid := acknowledgementsValid
  leasesValid := leasesValid

def modeStep (s : ControlLink) : ModeAct → Option ControlLink
  | .heartbeat ctx =>
    if s.inFlight.isSome then none
    else
      match reconcileNodeControlMode config ctx s.agent s.row with
      | .error _ => some s
      | .ok (row, decision) => some { s with row := row, inFlight := some decision }
  | .deliver now acknowledgementsValid leasesValid =>
    s.inFlight.map fun decision =>
      { s with
        agent := (s.agent.recordControllerSuccess now
          (decision.response acknowledgementsValid leasesValid)).1
        inFlight := none }
  | .failure now healthProbeFailed peerQuorumConfirmed =>
    some { s with
      agent := { s.agent with control :=
        s.agent.control.recordControllerFailure config now healthProbeFailed peerQuorumConfirmed }
      inFlight := none }
  | .restart now => some { s with agent := s.agent.loadRuntimeState config now, inFlight := none }
  | .syncMode answer => some { s with agent := s.agent.syncTavernControlMode config answer }
  | .sessionFacts activeIndependent pending =>
    some { s with agent := s.agent.recordAdapterSessionFacts activeIndependent pending }
  | .command generation =>
    (s.agent.acceptGeneration generation).map fun agent => { s with agent := agent }

def ControlLink.enrolled (now : Time) : ControlLink where
  agent := ⟨.initial now, config.controllerGeneration, []⟩
  row := .default
  inFlight := none

end

/-! ## What a step does to the generations -/

structure Advances (c c' : ControlModeState) : Prop where
  le : c.modeGeneration ≤ c'.modeGeneration
  sameMode : c'.modeGeneration = c.modeGeneration → c'.mode = c.mode

lemma Advances.of_eq {c c' : ControlModeState} (hgen : c'.modeGeneration = c.modeGeneration)
    (hmode : c'.mode = c.mode) : Advances c c' :=
  ⟨by omega, fun _ => hmode⟩

open ControlModeState

lemma advances_changeMode {c : ControlModeState} {mode : ControlMode} {now : Time}
    (hgen : mode ≠ c.mode → c.modeGeneration < generation) :
    Advances c (c.changeMode mode generation now) := by
  unfold changeMode
  split
  next hne =>
    have hlt : c.modeGeneration < generation := hgen hne
    refine ⟨?_, fun heq => ?_⟩
    · show c.modeGeneration ≤ generation
      omega
    · have hgen' : generation = c.modeGeneration := heq
      omega
  next => exact .of_eq rfl rfl

lemma advances_next (c : ControlModeState) (mode : ControlMode) (now : Time) :
    Advances c (c.changeMode mode (c.modeGeneration + 1) now) :=
  advances_changeMode fun _ => Int.lt_succ c.modeGeneration

lemma advances_recordControllerFailure (config : ModeConfig) (now : Time)
    (healthProbeFailed peerQuorumConfirmed : Bool) (c : ControlModeState) :
    Advances c (c.recordControllerFailure config now healthProbeFailed peerQuorumConfirmed) := by
  have h := advances_next (c.countFailure now healthProbeFailed peerQuorumConfirmed)
  exact ⟨(h _ now).le, (h _ now).sameMode⟩

open ModeRuntime

lemma advances_loadRuntimeState (config : ModeConfig) (now : Time) (s : ModeRuntime) :
    Advances s.control (s.loadRuntimeState config now).control := by
  unfold loadRuntimeState
  split
  · have h := advances_next s.control .independentDraining now
    exact ⟨h.le, h.sameMode⟩
  · exact .of_eq rfl rfl

lemma syncTavernControlMode_mode (config : ModeConfig) (answer : Option AdapterResponse)
    (s : ModeRuntime) : (s.syncTavernControlMode config answer).control.mode = s.control.mode ∧
      (s.syncTavernControlMode config answer).control.modeGeneration =
        s.control.modeGeneration := by
  unfold syncTavernControlMode
  split
  · exact ⟨rfl, rfl⟩
  split
  · exact ⟨rfl, rfl⟩
  split
  · exact ⟨rfl, rfl⟩
  · split <;> exact ⟨rfl, rfl⟩

lemma applyDecision_mode (now : Time) (response : HeartbeatResponse) (c : ControlModeState) :
    (c.applyDecision now response).mode = c.desired response := by
  unfold applyDecision changeMode
  grind

lemma applyDecision_modeGeneration (now : Time) (response : HeartbeatResponse)
    (c : ControlModeState) : (c.applyDecision now response).modeGeneration =
      if c.desired response = c.mode then c.modeGeneration else response.modeGeneration := by
  unfold applyDecision changeMode
  grind

lemma acceptGeneration_control {s s' : ModeRuntime} (h : s.acceptGeneration generation = some s') :
    s'.control = s.control := by
  unfold acceptGeneration at h
  split at h
  · cases h
  · cases h
    rfl

/-! ## Decisions -/

/-- A decision that the agent can take: it repeats the mode and the generation of the agent, or it
has a larger generation; and it does not let an independent agent skip the draining. -/
structure NodeControlModeDecision.Follows (decision : NodeControlModeDecision)
    (c : ControlModeState) : Prop where
  same : decision.desiredMode = c.mode → decision.modeGeneration = c.modeGeneration
  newer : decision.desiredMode ≠ c.mode → c.modeGeneration < decision.modeGeneration
  drains : c.mode = .independent → decision.desiredMode ≠ .managed

namespace NodeControlModeDecision.Follows

variable {decision : NodeControlModeDecision} {c c' : ControlModeState}

section

variable (h : decision.Follows c)
include h

lemma le : c.modeGeneration ≤ decision.modeGeneration := by
  by_cases hmode : decision.desiredMode = c.mode
  · have hsame := h.same hmode
    omega
  · have hnewer := h.newer hmode
    omega

lemma congr (hmode : c'.mode = c.mode) (hgen : c'.modeGeneration = c.modeGeneration) :
    decision.Follows c' :=
  ⟨by rw [hmode, hgen]; exact h.same, by rw [hmode, hgen]; exact h.newer,
    by rw [hmode]; exact h.drains⟩

lemma desired_eq (acknowledgementsValid leasesValid : Bool) :
    c.desired (decision.response acknowledgementsValid leasesValid) = decision.desiredMode :=
  if_neg fun hskip => h.drains hskip.1 hskip.2

lemma not_rejected (acknowledgementsValid leasesValid : Bool) :
    c.rejects (decision.response acknowledgementsValid leasesValid) ≠ some .modeGenerationRollback ∧
      c.rejects (decision.response acknowledgementsValid leasesValid) ≠
        some .modeGenerationReuse := by
  have hrollback : ¬ decision.modeGeneration < c.modeGeneration := by
    have hle := h.le
    omega
  have hreuse : ¬ (decision.modeGeneration = c.modeGeneration ∧
      c.desired (decision.response acknowledgementsValid leasesValid) ≠ c.mode) := by
    rintro ⟨hgen, hne⟩
    rw [h.desired_eq] at hne
    have hlt := h.newer hne
    omega
  unfold rejects
  constructor <;>
    simp only [NodeControlModeDecision.response] at hreuse ⊢ <;>
    grind

lemma advances (now : Time) (acknowledgementsValid leasesValid : Bool) :
    Advances c (c.applyDecision now (decision.response acknowledgementsValid leasesValid)) := by
  have hdesired := h.desired_eq acknowledgementsValid leasesValid
  constructor
  · rw [applyDecision_modeGeneration, hdesired]
    split
    · omega
    · exact h.le
  · intro hgen
    rw [applyDecision_modeGeneration, hdesired] at hgen
    rw [applyDecision_mode, hdesired]
    by_contra hne
    have hlt := h.newer hne
    rw [if_neg hne] at hgen
    have : decision.modeGeneration = c.modeGeneration := hgen
    omega

end

end NodeControlModeDecision.Follows

variable {config : ModeConfig} {ctx : HeartbeatContext} {s : ModeRuntime} {row : ModeRow}
  {decision : NodeControlModeDecision} {row' : ModeRow}

lemma reconcileNodeControlMode_cases
    (h : reconcileNodeControlMode config ctx s row = .ok (row', decision)) :
    (row'.controlMode = s.control.mode ∧ row'.controlModeGeneration = s.control.modeGeneration ∧
      row.controlModeGeneration ≤ s.control.modeGeneration ∧
      decision.desiredMode = s.wanted config ctx ∧
      decision.modeGeneration = row.desiredGeneration (s.wanted config ctx) s.control.mode
        s.control.modeGeneration) ∨ (row' = row ∧ decision.desiredMode = s.control.mode ∧
      decision.modeGeneration = s.control.modeGeneration) := by
  unfold reconcileNodeControlMode at h
  dsimp only at h
  repeat' split at h
  all_goals cases h
  · next hfresh _ => exact .inl ⟨rfl, rfl, by omega, rfl, rfl⟩
  · exact .inr ⟨rfl, rfl, rfl⟩

lemma stale_of_reconcileNodeControlMode
    (h : reconcileNodeControlMode config ctx s row = .error .staleNodeControlMode) :
    s.control.modeGeneration < row.controlModeGeneration ∨
      (s.control.modeGeneration = row.controlModeGeneration ∧
        s.control.mode ≠ row.controlMode) := by
  unfold reconcileNodeControlMode at h
  dsimp only at h
  repeat' split at h
  all_goals first
    | assumption
    | cases h

lemma lt_desiredGeneration {desired mode : ControlMode} (hne : desired ≠ mode) :
    generation < row.desiredGeneration desired mode generation := by
  unfold ModeRow.desiredGeneration
  rw [if_neg hne]
  split
  next hreused => exact hreused.2.2.2
  next => omega

lemma follows_of_reconcileNodeControlMode
    (h : reconcileNodeControlMode config ctx s row = .ok (row', decision)) :
    decision.Follows s.control := by
  rcases reconcileNodeControlMode_cases h with ⟨-, -, -, hmode, hgen⟩ | ⟨-, hmode, hgen⟩
  · refine ⟨fun hsame => ?_, fun hne => ?_, fun hindependent => ?_⟩
    · rw [hgen, ← hmode]
      exact if_pos hsame
    · rw [hgen, ← hmode]
      exact lt_desiredGeneration hne
    · rw [hmode, wanted, hindependent]
      show ControlMode.independentDraining ≠ .managed
      decide
  · refine ⟨fun _ => hgen, fun hne => absurd hmode hne, fun hindependent => ?_⟩
    rw [hmode, hindependent]
    decide

/-! ## The invariant -/

/-- The recorded generation is at most the agent's, and equal only for the same mode; and the agent
can take the decision in flight. -/
structure ControlLink.Paired (s : ControlLink) : Prop where
  recorded : s.row.controlModeGeneration ≤ s.agent.control.modeGeneration
  agrees : s.row.controlModeGeneration = s.agent.control.modeGeneration →
    s.row.controlMode = s.agent.control.mode
  inFlight : ∀ decision ∈ s.inFlight, decision.Follows s.agent.control

lemma ControlLink.paired_enrolled (config : ModeConfig) (now : Time) :
    (ControlLink.enrolled config now).Paired :=
  ⟨Int.le_refl 1, fun _ => rfl, nofun⟩

lemma ControlLink.Paired.advance {s : ControlLink} (h : s.Paired) {agent : ModeRuntime}
    {inFlight : Option NodeControlModeDecision} (hadvances : Advances s.agent.control agent.control)
    (hflight : ∀ decision ∈ inFlight, decision.Follows agent.control) :
    ({ s with agent := agent, inFlight := inFlight } : ControlLink).Paired := by
  have hrecorded := h.recorded
  have hle := hadvances.le
  refine ⟨?_, fun heq => ?_, hflight⟩
  · show s.row.controlModeGeneration ≤ agent.control.modeGeneration
    omega
  · have heq' : s.row.controlModeGeneration = agent.control.modeGeneration := heq
    have hsame : agent.control.modeGeneration = s.agent.control.modeGeneration := by omega
    have hrow : s.row.controlMode = s.agent.control.mode := h.agrees (by omega)
    exact hrow.trans (hadvances.sameMode hsame).symm

lemma advances_recordControllerSuccess
    (h : decision.Follows s.control) (now : Time) (acknowledgementsValid leasesValid : Bool) :
    Advances s.control (s.recordControllerSuccess now
      (decision.response acknowledgementsValid leasesValid)).1.control := by
  unfold recordControllerSuccess
  split
  · exact .of_eq rfl rfl
  split
  · exact .of_eq rfl rfl
  next s₁ haccept =>
    have hcontrol : s₁.control = s.control := acceptGeneration_control haccept
    split
    · rw [hcontrol]
      exact .of_eq rfl rfl
    · rw [hcontrol]
      exact h.advances now acknowledgementsValid leasesValid

lemma recordControllerSuccess_not_rejected
    (h : decision.Follows s.control) (now : Time) (acknowledgementsValid leasesValid : Bool) :
    (s.recordControllerSuccess now (decision.response acknowledgementsValid leasesValid)).2 ≠
        some .modeGenerationRollback ∧
      (s.recordControllerSuccess now (decision.response acknowledgementsValid leasesValid)).2 ≠
        some .modeGenerationReuse := by
  unfold recordControllerSuccess
  split
  · exact ⟨nofun, nofun⟩
  split
  · exact ⟨nofun, nofun⟩
  next s₁ haccept =>
    have hrejects := h.not_rejected acknowledgementsValid leasesValid
    rw [← acceptGeneration_control haccept] at hrejects
    split
    next rejection heq =>
      rwa [heq] at hrejects
    next => exact ⟨nofun, nofun⟩

lemma ControlLink.Paired.step {s s' : ControlLink} {act : ModeAct}
    (h : s.Paired) (hstep : modeStep config s act = some s') :
    s'.Paired ∧ Advances s.agent.control s'.agent.control ∧
      s.row.controlModeGeneration ≤ s'.row.controlModeGeneration := by
  have hstays : Advances s.agent.control s.agent.control := .of_eq rfl rfl
  -- a step of the agent alone
  have halone {agent : ModeRuntime} {inFlight : Option NodeControlModeDecision}
      (hadvances : Advances s.agent.control agent.control)
      (hflight : ∀ d ∈ inFlight, d.Follows agent.control) :
      ({ s with agent, inFlight } : ControlLink).Paired ∧
        Advances s.agent.control agent.control ∧
        s.row.controlModeGeneration ≤ s.row.controlModeGeneration :=
    ⟨h.advance hadvances hflight, hadvances, Int.le_refl _⟩
  cases act with
  | heartbeat ctx =>
    simp only [modeStep] at hstep
    split at hstep
    · cases hstep
    split at hstep
    · cases hstep
      exact ⟨h, hstays, Int.le_refl _⟩
    next row decision hdecision =>
      cases hstep
      have hfollows := follows_of_reconcileNodeControlMode hdecision
      have hflight : ∀ d ∈ some decision, d.Follows s.agent.control := by
        rintro d ⟨⟩
        exact hfollows
      rcases reconcileNodeControlMode_cases hdecision with ⟨hmode, hgen, hle, -⟩ | ⟨rfl, -⟩
      · exact ⟨⟨by dsimp only; omega, fun _ => hmode, hflight⟩, hstays, by dsimp only; omega⟩
      · exact ⟨⟨h.recorded, h.agrees, hflight⟩, hstays, Int.le_refl _⟩
  | deliver now acknowledgementsValid leasesValid =>
    obtain ⟨decision, hdecision, rfl⟩ := Option.map_eq_some_iff.mp hstep
    exact halone (advances_recordControllerSuccess (h.inFlight decision hdecision) now
      acknowledgementsValid leasesValid) nofun
  | failure now healthProbeFailed peerQuorumConfirmed =>
    cases hstep
    exact halone (advances_recordControllerFailure ..) nofun
  | restart now =>
    cases hstep
    exact halone (advances_loadRuntimeState ..) nofun
  | syncMode answer =>
    cases hstep
    obtain ⟨hmode, hgen⟩ := syncTavernControlMode_mode config answer s.agent
    exact halone (.of_eq hgen hmode) fun d hd => (h.inFlight d hd).congr hmode hgen
  | sessionFacts activeIndependent pending =>
    cases hstep
    exact halone (.of_eq rfl rfl) fun d hd => (h.inFlight d hd).congr rfl rfl
  | command generation =>
    obtain ⟨agent, haccept, rfl⟩ := Option.map_eq_some_iff.mp hstep
    have hcontrol := acceptGeneration_control haccept
    have hmode : agent.control.mode = s.agent.control.mode := by rw [hcontrol]
    have hgen : agent.control.modeGeneration = s.agent.control.modeGeneration := by rw [hcontrol]
    exact halone (.of_eq hgen hmode) fun d hd => (h.inFlight d hd).congr hmode hgen

lemma ControlLink.paired_of_run {start : Time} {acts : List ModeAct}
    {s : ControlLink} (hrun : run (modeStep config) (.enrolled config start) acts = some s) :
    s.Paired :=
  run_invariant (fun _ _ _ h hstep => (h.step hstep).1) (paired_enrolled config start) hrun

/-! ## The protocol never wedges -/

/-- **The two ends never wedge.**  Whatever is lost, fails or restarts: the controller calls no
report of the agent stale, the agent rejects no decision as a rollback or a reuse of a mode
generation, and no step lowers the generation of the agent or the one that the controller has
recorded, nor leaves a decision in flight whose generation is below the agent's. -/
theorem modes_never_wedge {config : ModeConfig} {start : Time} {acts : List ModeAct}
    {s : ControlLink} (hrun : run (modeStep config) (.enrolled config start) acts = some s) :
    (∀ ctx, reconcileNodeControlMode config ctx s.agent s.row ≠ .error .staleNodeControlMode) ∧
    (∀ decision ∈ s.inFlight, ∀ now acknowledgementsValid leasesValid,
      (s.agent.recordControllerSuccess now
          (decision.response acknowledgementsValid leasesValid)).2 ≠ some .modeGenerationRollback ∧
      (s.agent.recordControllerSuccess now
          (decision.response acknowledgementsValid leasesValid)).2 ≠ some .modeGenerationReuse) ∧
    ∀ act s', modeStep config s act = some s' →
      s.agent.control.modeGeneration ≤ s'.agent.control.modeGeneration ∧
      s.row.controlModeGeneration ≤ s'.row.controlModeGeneration ∧ ∀ decision ∈ s'.inFlight,
        s'.agent.control.modeGeneration ≤ decision.modeGeneration := by
  have hpaired := ControlLink.paired_of_run hrun
  refine ⟨fun ctx hstale => ?_, fun decision hdecision now acknowledgementsValid leasesValid => ?_,
    fun act s' hstep => ?_⟩
  · have hrecorded := hpaired.recorded
    rcases stale_of_reconcileNodeControlMode hstale with hlt | ⟨heq, hne⟩
    · omega
    · exact hne (hpaired.agrees heq.symm).symm
  · exact recordControllerSuccess_not_rejected (hpaired.inFlight decision hdecision) now
      acknowledgementsValid leasesValid
  · obtain ⟨hafter, hadvances, hrow⟩ := hpaired.step hstep
    exact ⟨hadvances.le, hrow, fun decision hdecision => (hafter.inFlight decision hdecision).le⟩

/-! ## A node that comes back -/

def sampleNode : ModeConfig where
  nodeID := 1
  role := .compute
  disaster := .default
  controllerGeneration := 1

def sampleContext : HeartbeatContext where
  db := Store.sampleDb
  activeGeneration := 1
  authenticatedGeneration := 1
  rebuildAwaits := false
  otherFactsValid := true

/-- Four confirmed failures over a quarter of an hour make the node independent; then the controller
answers and it drains. -/
def outageActs : List ModeAct :=
  [.failure 0 true true, .failure 300 true true, .failure 600 true true, .failure 900 true true,
    .heartbeat sampleContext, .deliver 915 true true]

def lostDecisionActs : List ModeAct :=
  outageActs ++ [.heartbeat sampleContext, .failure 930 false false]

def afterLostDecision : ControlLink :=
  (run (modeStep sampleNode) (.enrolled sampleNode 0) lostDecisionActs).getD
    (.enrolled sampleNode 0)

theorem modes_never_wedge_sample :
    run (modeStep sampleNode) (.enrolled sampleNode 0) lostDecisionActs = some afterLostDecision ∧
    ((∀ ctx, reconcileNodeControlMode sampleNode ctx afterLostDecision.agent
        afterLostDecision.row ≠ .error .staleNodeControlMode) ∧
    (∀ decision ∈ afterLostDecision.inFlight, ∀ now acknowledgementsValid leasesValid,
      (afterLostDecision.agent.recordControllerSuccess now
          (decision.response acknowledgementsValid leasesValid)).2 ≠ some .modeGenerationRollback ∧
      (afterLostDecision.agent.recordControllerSuccess now
          (decision.response acknowledgementsValid leasesValid)).2 ≠ some .modeGenerationReuse) ∧
    ∀ act s', modeStep sampleNode afterLostDecision act = some s' →
      afterLostDecision.agent.control.modeGeneration ≤ s'.agent.control.modeGeneration ∧
      afterLostDecision.row.controlModeGeneration ≤ s'.row.controlModeGeneration ∧
      ∀ decision ∈ s'.inFlight, s'.agent.control.modeGeneration ≤ decision.modeGeneration) := by
  have hrun : run (modeStep sampleNode) (.enrolled sampleNode 0) lostDecisionActs =
      some afterLostDecision := rfl
  exact ⟨hrun, modes_never_wedge hrun⟩

/-- The desired generation of the row falls back: the controller has decided that the draining node
becomes managed under a new generation, the answer is lost, and the next report shows a session and
is answered with its own mode and generation. -/
theorem desired_generation_falls :
    ∃ acts s act s', run (modeStep sampleNode) (.enrolled sampleNode 0) acts = some s ∧
      modeStep sampleNode s act = some s' ∧
      s'.row.desiredModeGeneration < s.row.desiredModeGeneration := by
  refine ⟨lostDecisionActs ++ [.sessionFacts 1 []], _, .heartbeat sampleContext, _, rfl, rfl, ?_⟩
  decide +kernel

end StControl.Agent
