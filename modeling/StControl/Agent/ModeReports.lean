import StControl.Agent.OwnershipSafety
import StControl.Agent.ReportChecks

/-!
# Reports of the control mode

An agent reports the facts that it has cached, and four functions write them:
`recordControllerFailure` and `recordControllerSuccess` the evidence for the mode,
`syncTavernControlMode` and `recordAdapterSessionFacts` what the adapter says; the takeovers have
their own journal.  This module runs them all, with restarts in between, and asks whether the
controller accepts each report by `Agent/ReportChecks.lean`.

The invariant is `ReportingAgent.Reportable`.  It is stated with the instants of the state and the
clock of the agent; the clock of the controller agrees with it, so that a report is checked at an
instant that is not before the clock.
-/

namespace StControl.Agent

open Run Option List ThreeAgents
open Store (ControlMode Time)

variable {pending : List IndependentSyncUser} {generation' : ℤ} {response : HeartbeatResponse}
  {claim : ActivityOwnershipClaim}

/-! ## The steps of the agent -/

/-- The check of `collectUserStatuses` on a pending user. -/
def adapterPendingValid (now : ℤ) (pending : IndependentSyncUser) : Bool :=
  safeInventoryString pending.handle 128 && validUUID pending.marker && 0 < pending.changedAt &&
    pending.changedAt ≤ now + acceptedSkew && safeInventoryString pending.reason 128

/-- The checks of `collectUserStatuses` on the list of pending users. -/
def adapterListValid (now : ℤ) (pending : List IndependentSyncUser) : Bool :=
  pending.length ≤ 10000 && pending.all (adapterPendingValid now) &&
    (pending.map (·.handle)).Nodup

/-- The checks of `recordControllerSuccess` on the acknowledged takeovers. -/
def validAcknowledgements (acknowledged : List String) : Bool :=
  acknowledged.length ≤ maxOwnershipTakeovers && acknowledged.all validUUID &&
    acknowledged.Nodup

/-- The check of `loadRuntimeState` on a persisted takeover. -/
def validPersistedTakeover (env : Env) (operation : OwnershipTakeoverOperation) : Bool :=
  validUUID operation.operationID && validateActivityOwnershipClaim env operation.claim &&
    operation.claim.kind = .userConfirmedTakeover &&
    operation.claim.operationID == operation.operationID && 0 < operation.updatedAt &&
    !(operation.audited && !operation.succeeded) && operation.parentClaimID != "" &&
    operation.parentClaimID == operation.claim.parentClaimID

inductive ReportAct
  /-- A heartbeat has failed. -/
  | failure (now : ℤ) (healthProbeFailed peerQuorumConfirmed : Bool)
  /-- A heartbeat is answered, with the takeovers that the controller has taken over. -/
  | success (now : ℤ) (response : HeartbeatResponse) (acknowledged : List String)
  /-- The agent starts again from its saved state. -/
  | restart (now : ℤ)
  /-- The agent asks the adapter to apply the mode. -/
  | syncMode (answer : Option AdapterResponse)
  /-- The adapter has listed its users. -/
  | sessionFacts (now : ℤ) (activeIndependent : ℕ) (pending : List IndependentSyncUser)
  /-- A command of the controller shows its generation. -/
  | command (generation : ℤ)
  /-- A takeover over a parent claim enters the journal; what its peers told the node about the
  parent is arbitrary. -/
  | takeover (now : ℤ) (request : OwnershipTakeoverRequest) (parent : ActivityOwnershipClaim)
  /-- A quorum has accepted the takeover. -/
  | takeoverSucceeded (now : ℤ) (operationID : String)
  /-- The local audit record of the takeover is written. -/
  | takeoverAudited (now : ℤ) (operationID : String)
  deriving DecidableEq

namespace ReportingAgent

def rewrite (operationID : String) (f : OwnershipTakeoverOperation → OwnershipTakeoverOperation)
    (takeovers : List OwnershipTakeoverOperation) : List OwnershipTakeoverOperation :=
  takeovers.map fun operation => if operation.operationID = operationID then f operation
    else operation

/-- The claim of a takeover, as `performUserConfirmedTakeover` makes it over its parent. -/
def takeoverClaim (env : Env) (config : ModeConfig) (now : ℤ) (request : OwnershipTakeoverRequest)
    (parent : ActivityOwnershipClaim) : Option ActivityOwnershipClaim :=
  makeActivityOwnershipClaim env request.handle config.nodeID parent.controllerGeneration
    parent.activityEpoch (int64Succ parent.takeoverSequence) .userConfirmedTakeover parent.claimID
    request.operationID now

/-- `handleAdapterOwnershipTakeover` and `performUserConfirmedTakeover` up to the journal entry:
the request is valid and not in the journal, the parent is the claim that it names, and the journal
has room. -/
def takeover (env : Env) (config : ModeConfig) (now : ℤ) (request : OwnershipTakeoverRequest)
    (parent : ActivityOwnershipClaim) (s : ReportingAgent) : Option ReportingAgent :=
  if validOwnershipHandle env request.handle && validOwnershipDigest request.parentClaimID &&
      validUUID request.operationID && validateActivityOwnershipClaim env parent &&
      parent.claimID == request.parentClaimID && parent.handle == request.handle &&
      s.takeovers.all (fun operation => operation.operationID != request.operationID) &&
      s.takeovers.length < maxOwnershipTakeovers then
    (takeoverClaim env config now request parent).map fun claim =>
      let operation : OwnershipTakeoverOperation :=
        { operationID := request.operationID, parentClaimID := parent.claimID, claim,
          succeeded := false, audited := false, updatedAt := now }
      { s with takeovers := operation :: s.takeovers, clock := now }
  else none

/-- `recordControllerSuccess`: an accepted response takes the acknowledged takeovers out of the
journal, once they have succeeded and are audited. -/
def success (now : ℤ) (response : HeartbeatResponse) (acknowledged : List String)
    (s : ReportingAgent) : ReportingAgent :=
  let response := { response with acknowledgementsValid := validAcknowledgements acknowledged }
  let outcome := s.runtime.recordControllerSuccess (now / 1000) response
  { s with
    runtime := outcome.1
    takeovers :=
      if outcome.2.isSome then s.takeovers
      else s.takeovers.filter fun operation =>
        !(operation.operationID ∈ acknowledged && operation.succeeded && operation.audited)
    clock := now }

def installed (config : ModeConfig) (now : ℤ) : ReportingAgent where
  runtime := ⟨.initial (now / 1000), config.controllerGeneration, []⟩
  pendingUsers := []
  takeovers := []
  clock := now

end ReportingAgent

def reportStep (env : Env) (config : ModeConfig) (s : ReportingAgent) :
    ReportAct → Option ReportingAgent
  | .failure now healthProbeFailed peerQuorumConfirmed =>
    if now < s.clock then none
    else
      let control := s.runtime.control.recordControllerFailure config (now / 1000)
        healthProbeFailed peerQuorumConfirmed
      some { s with runtime := { s.runtime with control := control }, clock := now }
  | .success now response acknowledged =>
    if now < s.clock then none else some (s.success now response acknowledged)
  | .restart now =>
    if now < s.clock ∨ s.takeovers.all (validPersistedTakeover env) = false then none
    else some { s with runtime := s.runtime.loadRuntimeState config (now / 1000), clock := now }
  | .syncMode answer => some { s with runtime := s.runtime.syncTavernControlMode config answer }
  | .sessionFacts now activeIndependent pending =>
    if now < s.clock ∨ adapterListValid now pending = false then none
    else some { s with
      runtime := s.runtime.recordAdapterSessionFacts activeIndependent (pending.map (·.handle))
      pendingUsers := pending, clock := now }
  | .command generation =>
    (s.runtime.acceptGeneration generation).map fun runtime => { s with runtime := runtime }
  | .takeover now request parent =>
    if now < s.clock then none else s.takeover env config now request parent
  | .takeoverSucceeded now operationID =>
    if now < s.clock then none
    else some { s with
      takeovers := ReportingAgent.rewrite operationID
        (fun operation => { operation with succeeded := true, updatedAt := now }) s.takeovers
      clock := now }
  | .takeoverAudited now operationID =>
    if now < s.clock then none
    else some { s with
      takeovers := ReportingAgent.rewrite operationID
        (fun operation =>
          if operation.succeeded then { operation with audited := true, updatedAt := now }
          else operation) s.takeovers
      clock := now }

/-! ## The condition -/

/-- The steps after which the report stays acceptable:

* an answer of the adapter that `syncTavernControlMode` takes counts the pending users of the list;
* a response of the controller does not ask for the independent mode;
* the adapter lists at most 500 pending users, under handles that the controller accepts and
  distinct markers;
* a takeover is of a handle that the controller accepts, over a claim of a generation that the node
  knows, and its digest is new. -/
def ReportingAgent.keepsReports (env : Env) (config : ModeConfig) (s : ReportingAgent) :
    ReportAct → Bool
  | .success _ response _ => response.desiredMode ≠ .independent
  | .syncMode answer =>
    answer.all fun response =>
      !s.runtime.answersMode response || response.pendingUserSyncs = (s.pendingUsers.length : ℤ)
  | .sessionFacts _ _ pending =>
    pending.length ≤ 500 && pending.all (fun user => reportableHandle env user.handle) &&
      (pending.map (·.marker)).Nodup
  | .takeover now request parent =>
    reportableHandle env request.handle &&
      parent.controllerGeneration ≤ s.runtime.highestGeneration &&
      (ReportingAgent.takeoverClaim env config now request parent).all fun claim =>
        claim.claimID != parent.claimID &&
          s.takeovers.all fun operation => operation.claim.claimID != claim.claimID
  | _ => true

/-! ## What the state has to keep -/

def modeReasons : List String :=
  ["", "controller_loss_evidence_disputed", "controller_heartbeat_timeout",
    "sustained_peer_confirmed_controller_loss", "controller_reconciled", "controller_recovered",
    "legacy_independent_without_peer_witness"]

lemma modeReasons_wellFormed :
    ∀ reason ∈ modeReasons, reason.utf8ByteSize ≤ 128 ∧ containsLineBreak reason = false := by
  decide

def ControlModeState.timestamps (c : ControlModeState) : List (Option Time) :=
  [c.outageStartedAt, c.confirmedOutageStartedAt, c.lastControllerSuccessAt, c.independentSince]

structure ControlModeState.Evidenced (clock : ℤ) (c : ControlModeState) : Prop where
  generation : 0 < c.modeGeneration
  reason : c.reasonCode ∈ modeReasons
  independent : c.mode = .independent → c.independentSince.isSome ∧
    c.confirmedOutageStartedAt.isSome ∧ 0 < c.consecutivePeerWitnessFails
  past : ∀ t, some t ∈ c.timestamps → 1000 * t ≤ clock

structure PendingReportable (env : Env) (clock : ℤ) (pending : List IndependentSyncUser) :
    Prop where
  bounded : pending.length ≤ 500
  valid : ∀ user ∈ pending, validPendingUser env clock user
  handles : (pending.map (·.handle)).Nodup
  markers : (pending.map (·.marker)).Nodup

structure JournalReportable (env : Env) (generation clock : ℤ)
    (takeovers : List OwnershipTakeoverOperation) : Prop where
  room : takeovers.length ≤ maxOwnershipTakeovers
  valid : ∀ operation ∈ takeovers, validTakeover env generation clock operation.report
  operations : (takeovers.map (·.operationID)).Nodup
  claims : (takeovers.map (·.claim.claimID)).Nodup

structure ReportingAgent.Reportable (env : Env) (s : ReportingAgent) : Prop where
  started : 0 < s.clock
  evidenced : s.runtime.control.Evidenced s.clock
  generation : 0 < s.runtime.highestGeneration
  counted : s.runtime.control.pendingUserSyncs = s.pendingUsers.length
  pending : PendingReportable env s.clock s.pendingUsers
  journal : JournalReportable env s.runtime.highestGeneration s.clock s.takeovers

variable {clock clock' generation : ℤ} {env : Env}

lemma ControlModeState.Evidenced.mono {c : ControlModeState}
    (h : c.Evidenced clock) (hle : clock ≤ clock') : c.Evidenced clock' :=
  { h with past := fun t ht => (h.past t ht).trans hle }

lemma PendingReportable.mono (h : PendingReportable env clock pending) (hle : clock ≤ clock') :
    PendingReportable env clock' pending := by
  refine { h with valid := fun user hmem => ?_ }
  have hvalid := h.valid user hmem
  simp only [validPendingUser, Bool.and_eq_true, Bool.not_eq_true',
    decide_eq_true_eq] at hvalid ⊢
  obtain ⟨⟨⟨⟨⟨hbefore, hskew⟩, hreason⟩, hsize⟩, htrim⟩, hbreak⟩ := hvalid
  exact ⟨⟨⟨⟨⟨hbefore, by omega⟩, hreason⟩, hsize⟩, htrim⟩, hbreak⟩

lemma validTakeover_mono {takeover : IndependentTakeover}
    (h : validTakeover env generation clock takeover) (hgeneration : generation ≤ generation')
    (hclock : clock ≤ clock') : validTakeover env generation' clock' takeover := by
  simp only [validTakeover, Bool.and_eq_true,
    decide_eq_true_eq] at h ⊢
  obtain ⟨⟨⟨⟨⟨hbefore, hle⟩, hepoch⟩, hsequence⟩, hconfirmed⟩, hskew⟩ := h
  exact ⟨⟨⟨⟨⟨hbefore, by omega⟩, hepoch⟩, hsequence⟩, hconfirmed⟩, by omega⟩

lemma JournalReportable.mono {takeovers : List OwnershipTakeoverOperation}
    (h : JournalReportable env generation clock takeovers) (hgeneration : generation ≤ generation')
    (hclock : clock ≤ clock') : JournalReportable env generation' clock' takeovers :=
  { h with
    valid := fun operation hmem => validTakeover_mono (h.valid operation hmem) hgeneration hclock }

lemma JournalReportable.sublist {takeovers takeovers' : List OwnershipTakeoverOperation}
    (h : JournalReportable env generation clock takeovers) (hsub : takeovers'.Sublist takeovers) :
    JournalReportable env generation clock takeovers' where
  room := hsub.length_le.trans h.room
  valid operation hmem := h.valid operation (hsub.subset hmem)
  operations := h.operations.sublist (hsub.map _)
  claims := h.claims.sublist (hsub.map _)

namespace ReportingAgent.Reportable

variable {env : Env} {s : ReportingAgent}

section

variable (h : s.Reportable env)
include h

lemma tick {now : ℤ} (hnow : s.clock ≤ now) :
    ({ s with clock := now } : ReportingAgent).Reportable env :=
  { h with
    started := h.started.trans_le hnow, evidenced := h.evidenced.mono hnow
    pending := h.pending.mono hnow, journal := h.journal.mono (Int.le_refl _) hnow }

lemma wellFormed : s.controlModeReport.wellFormed := by
  have hgeneration := h.evidenced.generation
  have hhighest := h.generation
  obtain ⟨hsize, hbreak⟩ := modeReasons_wellFormed _ h.evidenced.reason
  simp [NodeControlModeReport.wellFormed, controlModeReport, hgeneration, hhighest, hsize, hbreak]

lemma not_lacksEvidence : s.controlModeReport.lacksEvidence = false := by
  by_cases hmode : s.runtime.control.mode = .independent
  · obtain ⟨hsince, hconfirmed, hwitness⟩ := h.evidenced.independent hmode
    have hsince' : s.runtime.control.independentSince.isNone = false := by
      rw [isNone_eq_false_iff, hsince]
    have hconfirmed' : s.runtime.control.confirmedOutageStartedAt.isNone = false := by
      rw [isNone_eq_false_iff, hconfirmed]
    have hwitness' : s.runtime.control.consecutivePeerWitnessFails ≠ 0 := hwitness.ne'
    simp [NodeControlModeReport.lacksEvidence, controlModeReport, hsince', hconfirmed', hwitness']
  · simp [NodeControlModeReport.lacksEvidence, controlModeReport, hmode]

lemma countsPending : s.controlModeReport.countsPending := by
  have hcounted : (s.pendingUsers.length : ℤ) = s.runtime.control.pendingUserSyncs := by
    rw [h.counted]
  simp [NodeControlModeReport.countsPending, controlModeReport, hcounted, h.pending.bounded]

lemma takeovers_valid : ∀ takeover ∈ s.controlModeReport.confirmedTakeovers,
      validTakeover env s.runtime.highestGeneration s.clock takeover := by
  intro takeover hmem
  obtain ⟨operation, hoperation, rfl⟩ := mem_map.mp hmem
  exact h.journal.valid operation (mem_filter.mp hoperation).1

lemma takeovers_bounded : s.controlModeReport.confirmedTakeovers.length ≤ 1000 := by
  have hroom : s.takeovers.length ≤ 1000 := h.journal.room
  have hfilter := length_filter_le
    (fun operation : OwnershipTakeoverOperation => operation.succeeded && operation.audited)
    s.takeovers
  simp only [controlModeReport, length_map]
  omega

lemma checkTakeovers {valid : IndependentTakeover → Bool}
    (hvalid : ∀ takeover ∈ s.controlModeReport.confirmedTakeovers, valid takeover)
    (invalid duplicateFirst duplicateSecond : String) :
    checkEntries valid (·.operationID) (·.claimID) invalid duplicateFirst duplicateSecond [] []
      s.controlModeReport.confirmedTakeovers = .ok () := by
  have hfiltered : JournalReportable env s.runtime.highestGeneration s.clock
      (s.takeovers.filter fun operation => operation.succeeded && operation.audited) :=
    h.journal.sublist List.filter_sublist
  refine checkEntries_eq_ok hvalid ?_ ?_ (fun _ _ => List.not_mem_nil) fun _ _ => List.not_mem_nil
  · rw [controlModeReport, List.map_map]
    exact hfiltered.operations
  · rw [controlModeReport, List.map_map]
    exact hfiltered.claims

lemma normalized : normalizeNodeControlMode env s.controlModeReport s.clock =
      .ok ⟨s.controlModeReport, s.clock⟩ := by
  have hpending : checkEntries (validPendingUser env s.clock) (·.handle) (·.marker)
      "invalid pending independent synchronization fact"
      "duplicate pending independent synchronization handle"
      "duplicate pending independent synchronization marker" [] []
      s.controlModeReport.pendingUsers = .ok () :=
    checkEntries_eq_ok h.pending.valid h.pending.handles h.pending.markers
      (fun _ _ => not_mem_nil) fun _ _ => not_mem_nil
  have htakeovers := h.checkTakeovers h.takeovers_valid "invalid confirmed independent takeover"
    "duplicate confirmed independent takeover operation"
    "duplicate confirmed independent takeover claim"
  have hroom : ¬ 1000 < s.controlModeReport.confirmedTakeovers.length :=
    not_lt.mpr h.takeovers_bounded
  have hgeneration : s.controlModeReport.controllerGeneration = s.runtime.highestGeneration := rfl
  simp [normalizeNodeControlMode, h.wellFormed, h.not_lacksEvidence, h.countsPending, hpending,
    hroom, hgeneration, htakeovers, bind, Except.bind, pure, Except.pure]

lemma valid (henv : env.Lawful) : validNodeControlModeFact env ⟨s.controlModeReport, s.clock⟩ := by
  have htakeovers := h.checkTakeovers (fun takeover hmem =>
    validTakeoverFact_of_validTakeover henv (h.takeovers_valid takeover hmem)) "" "" ""
  have htimes : (s.controlModeReport.timestamps.all fun timestamp =>
      timestamp.all fun t => 1000 * t ≤ s.clock + acceptedSkew) := by
    rw [List.all_eq_true]
    rintro (- | t) hmem
    · rfl
    · have hpast := h.evidenced.past t hmem
      have hskew : s.clock ≤ s.clock + acceptedSkew := by
        rw [acceptedSkew]
        omega
      exact decide_eq_true (hpast.trans hskew)
  have hgeneration : s.controlModeReport.controllerGeneration = s.runtime.highestGeneration := rfl
  simp only [validNodeControlModeFact, h.wellFormed, h.countsPending, h.not_lacksEvidence, htimes,
    hgeneration, htakeovers, h.takeovers_bounded, decide_true, Bool.and_self, Bool.not_false]
  rfl

lemma accepted (henv : env.Lawful) {now : ℤ} (hnow : s.clock ≤ now) :
    acceptsReport env s.controlModeReport now := by
  have hlater := h.tick hnow
  have hnormalized : normalizeNodeControlMode env s.controlModeReport now =
      .ok ⟨s.controlModeReport, now⟩ := hlater.normalized
  rw [acceptsReport, hnormalized]
  exact hlater.valid henv

end

end ReportingAgent.Reportable

/-! ## What the functions of the agent keep -/

namespace ControlModeState.Evidenced

variable {c : ControlModeState} {clock now : ℤ}

lemma initial (now : ℤ) : (ControlModeState.initial (now / 1000)).Evidenced now where
  generation := Int.one_pos
  reason := List.mem_cons_self ..
  independent := nofun
  past := by simp [ControlModeState.timestamps, ControlModeState.initial]

lemma second_le (now : ℤ) : 1000 * (now / 1000) ≤ now := by omega

open ControlModeState

lemma timestamps_recordControllerFailure (config : ModeConfig) (now t : Time)
    (healthProbeFailed peerQuorumConfirmed : Bool) (ht : some t ∈ (c.recordControllerFailure config
      now healthProbeFailed peerQuorumConfirmed).timestamps) : some t ∈ c.timestamps ∨ t = now := by
  have hgetD : ∀ o : Option Time, some t = some (o.getD now) → o = some t ∨ t = now := by
    rintro (- | u) heq
    · exact .inr (some.inj heq)
    · exact .inl heq.symm
  simp only [timestamps, recordControllerFailure, recordFailureUnder, changeMode, countFailure,
    List.mem_cons, List.not_mem_nil, or_false] at ht ⊢
  grind

lemma of_sustainedLoss {policy : AgentDisasterPolicy} {t : Time}
    (h : c.sustainedLoss (normalizeDisasterPolicy policy) t) :
    c.confirmedOutageStartedAt.isSome ∧ 0 < c.consecutivePeerWitnessFails := by
  have hmin : 0 < (normalizeDisasterPolicy policy).minFailures := by
    simp only [normalizeDisasterPolicy, AgentDisasterPolicy.default]
    split <;> omega
  simp only [sustainedLoss, Bool.and_eq_true,
    decide_eq_true_eq] at h
  obtain ⟨⟨⟨hany, -⟩, -⟩, hwitness⟩ := h
  refine ⟨?_, by omega⟩
  obtain ⟨start, hstart, -⟩ := any_eq_true _ _ |>.mp hany
  rw [hstart]
  rfl

lemma recordControllerFailure (h : c.Evidenced clock) (hnow : clock ≤ now) (config : ModeConfig)
    (healthProbeFailed peerQuorumConfirmed : Bool) :
    (c.recordControllerFailure config (now / 1000) healthProbeFailed
      peerQuorumConfirmed).Evidenced now := by
  refine ⟨?_, ?_, fun hmode => ?_, fun t ht => ?_⟩
  · exact h.generation.trans_le (advances_recordControllerFailure ..).le
  · have hreason := h.reason
    simp only [ControlModeState.recordControllerFailure, recordFailureUnder, countFailure]
    simp only [modeReasons, List.mem_cons, List.not_mem_nil, or_false] at hreason ⊢
    grind
  · -- Either this failure completes the evidence, or the node was independent and it is confirmed.
    have hold := h.independent
    have hloss : (c.countFailure (now / 1000) healthProbeFailed peerQuorumConfirmed).sustainedLoss
        (normalizeDisasterPolicy config.disaster) (now / 1000) → _ := of_sustainedLoss
    simp only [ControlModeState.recordControllerFailure, recordFailureUnder, changeMode] at hmode ⊢
    simp only [countFailure] at *
    grind
  · rcases timestamps_recordControllerFailure config _ t healthProbeFailed peerQuorumConfirmed ht
      with hold | rfl
    · exact (h.past t hold).trans hnow
    · exact second_le now

lemma applyDecision (h : c.Evidenced clock) (hnow : clock ≤ now)
    (hmode : response.desiredMode ≠ .independent) (hgeneration : 0 < response.modeGeneration) :
    (c.applyDecision (now / 1000) response).Evidenced now := by
  refine ⟨?_, ?_, fun hindependent => ?_, fun t ht => ?_⟩
  · rw [applyDecision_modeGeneration]
    split
    · exact h.generation
    · exact hgeneration
  · have hreason := h.reason
    simp only [ControlModeState.applyDecision, ControlModeState.changeMode]
    simp only [modeReasons, List.mem_cons, List.not_mem_nil, or_false] at hreason ⊢
    grind
  · rw [applyDecision_mode, ControlModeState.desired] at hindependent
    split at hindependent
    · cases hindependent
    · exact absurd hindependent hmode
  · have hinstant : some t ∈ c.timestamps ∨ t = now / 1000 := by
      simp only [ControlModeState.timestamps, ControlModeState.applyDecision,
        ControlModeState.changeMode, List.mem_cons, List.not_mem_nil, or_false] at ht ⊢
      grind
    rcases hinstant with hold | rfl
    · exact (h.past t hold).trans hnow
    · exact second_le now

lemma loadRuntimeState {s : ModeRuntime} (h : s.control.Evidenced clock) (hnow : clock ≤ now)
    (config : ModeConfig) (t : Time) : (s.loadRuntimeState config t).control.Evidenced now := by
  have hlater := h.mono hnow
  unfold ModeRuntime.loadRuntimeState
  split
  next hlegacy =>
    have hdrains : ControlMode.independentDraining ≠ s.control.mode := by
      rw [hlegacy.1]
      decide
    have hreason : "legacy_independent_without_peer_witness" ∈ modeReasons := by decide
    rw [changeMode, if_pos hdrains]
    exact ⟨Int.add_pos hlater.generation Int.one_pos, hreason, nofun, hlater.past⟩
  next => exact hlater

lemma syncTavernControlMode {s : ModeRuntime} (h : s.control.Evidenced clock) (config : ModeConfig)
    (answer : Option AdapterResponse) :
    (s.syncTavernControlMode config answer).control.Evidenced clock := by
  have hkept : ∀ adapterMode generation sessions pending, ({ s.control with
        adapterMode := adapterMode, adapterControllerGeneration := generation
        activeIndependentSessions := sessions
        pendingUserSyncs := pending } : ControlModeState).Evidenced clock :=
    fun _ _ _ _ => { h with }
  unfold ModeRuntime.syncTavernControlMode
  split
  · exact h
  split
  · exact hkept _ _ _ _
  split
  · exact h
  split
  · exact hkept _ _ _ _
  · exact h

end ControlModeState.Evidenced

/-! ## The count of pending users -/

lemma changeMode_pendingUserSyncs (mode : ControlMode) (generation : ℤ) (now : Time)
    (c : ControlModeState) :
    (c.changeMode mode generation now).pendingUserSyncs = c.pendingUserSyncs := by
  unfold ControlModeState.changeMode
  split <;> rfl

@[simp] lemma recordControllerFailure_pendingUserSyncs (config : ModeConfig) (now : Time)
    (healthProbeFailed peerQuorumConfirmed : Bool) (c : ControlModeState) :
    (c.recordControllerFailure config now healthProbeFailed peerQuorumConfirmed).pendingUserSyncs =
      c.pendingUserSyncs := by
  simp [ControlModeState.recordControllerFailure, ControlModeState.recordFailureUnder,
    ControlModeState.countFailure, changeMode_pendingUserSyncs]

@[simp] lemma applyDecision_pendingUserSyncs (now : Time) (response : HeartbeatResponse)
    (c : ControlModeState) :
    (c.applyDecision now response).pendingUserSyncs = c.pendingUserSyncs := by
  unfold ControlModeState.applyDecision
  dsimp only
  split
  · rfl
  · split <;> simp [changeMode_pendingUserSyncs]

@[simp] lemma loadRuntimeState_pendingUserSyncs (config : ModeConfig) (now : Time)
    (s : ModeRuntime) :
    (s.loadRuntimeState config now).control.pendingUserSyncs = s.control.pendingUserSyncs := by
  unfold ModeRuntime.loadRuntimeState
  split <;> simp [changeMode_pendingUserSyncs]

lemma syncTavernControlMode_pendingUserSyncs {s : ModeRuntime} {answer : Option AdapterResponse}
    {count : ℕ} (config : ModeConfig) (h : s.control.pendingUserSyncs = count)
    (hanswer : ∀ response ∈ answer, s.answersMode response →
      response.pendingUserSyncs = (count : ℤ)) :
    (s.syncTavernControlMode config answer).control.pendingUserSyncs = count := by
  unfold ModeRuntime.syncTavernControlMode
  split
  · exact h
  split
  · exact h
  split
  · exact h
  next response =>
    split
    next hanswers =>
      have hcount := hanswer response rfl hanswers
      show response.pendingUserSyncs.toNat = count
      omega
    next => exact h

lemma recordControllerSuccess_cases (now : Time) (response : HeartbeatResponse) (s : ModeRuntime) :
    s.highestGeneration ≤ (s.recordControllerSuccess now response).1.highestGeneration ∧
      ((s.recordControllerSuccess now response).1.control = s.control ∨
        0 < response.modeGeneration ∧ (s.recordControllerSuccess now response).1.control =
            s.control.applyDecision now response) := by
  unfold ModeRuntime.recordControllerSuccess
  split
  · exact ⟨Int.le_refl _, .inl rfl⟩
  split
  · exact ⟨Int.le_refl _, .inl rfl⟩
  next s₁ haccept =>
    have hcontrol : s₁.control = s.control := acceptGeneration_control haccept
    have hhighest : s.highestGeneration ≤ s₁.highestGeneration := by
      unfold ModeRuntime.acceptGeneration at haccept
      split at haccept
      · cases haccept
      · cases haccept
        dsimp only
        omega
    split
    · exact ⟨hhighest, .inl hcontrol⟩
    next hpassed =>
      have hpositive : 0 < response.modeGeneration := by
        by_contra hle
        have hle' : response.modeGeneration ≤ 0 := by omega
        simp [ControlModeState.rejects, hle'] at hpassed
      refine ⟨hhighest, .inr ⟨hpositive, ?_⟩⟩
      rw [hcontrol]

/-! ## The journal -/

namespace JournalReportable

variable {env : Env} {generation clock now : ℤ} {takeovers : List OwnershipTakeoverOperation}

lemma rewrite (h : JournalReportable env generation clock takeovers) (hclock : clock ≤ now)
    (hnow : 0 < now) (operationID : String)
    {f : OwnershipTakeoverOperation → OwnershipTakeoverOperation}
    (hf : ∀ operation, f operation = operation ∨ ∃ succeeded audited, f operation =
      { operation with succeeded := succeeded, audited := audited, updatedAt := now }) :
    JournalReportable env generation now (ReportingAgent.rewrite operationID f takeovers) := by
  have hlater := h.mono (Int.le_refl generation) hclock
  have hidentity : ∀ operation, (if operation.operationID = operationID then f operation
      else operation).operationID = operation.operationID := by
    grind
  have hclaim : ∀ operation, (if operation.operationID = operationID then f operation
      else operation).claim.claimID = operation.claim.claimID := by
    grind
  refine ⟨?_, ?_, ?_, ?_⟩
  · rw [ReportingAgent.rewrite, List.length_map]
    exact h.room
  · intro operation hmem
    obtain ⟨old, hold, rfl⟩ := List.mem_map.mp hmem
    have hvalid := hlater.valid old hold
    split
    · rcases hf old with heq | ⟨succeeded, audited, heq⟩
      · rwa [heq]
      rw [heq]
      have hskew : now ≤ now + acceptedSkew := by
        rw [acceptedSkew]
        omega
      simp only [validTakeover, OwnershipTakeoverOperation.report, Bool.and_eq_true] at hvalid ⊢
      exact ⟨⟨hvalid.1.1, decide_eq_true hnow⟩, decide_eq_true hskew⟩
    · exact hvalid
  · rw [ReportingAgent.rewrite, List.map_map]
    exact (List.map_congr_left fun operation _ => hidentity operation) ▸ h.operations
  · rw [ReportingAgent.rewrite, List.map_map]
    exact (List.map_congr_left fun operation _ => hclaim operation) ▸ h.claims

lemma cons (h : JournalReportable env generation clock takeovers)
    {operation : OwnershipTakeoverOperation} (hroom : takeovers.length < maxOwnershipTakeovers)
    (hvalid : validTakeover env generation clock operation.report)
    (hoperation : ∀ old ∈ takeovers, old.operationID ≠ operation.operationID)
    (hclaim : ∀ old ∈ takeovers, old.claim.claimID ≠ operation.claim.claimID) :
    JournalReportable env generation clock (operation :: takeovers) where
  room := hroom
  valid := by
    rintro entry (- | ⟨-, hmem⟩)
    · exact hvalid
    · exact h.valid entry hmem
  operations := by
    rw [map_cons, nodup_cons]
    refine ⟨fun hmem => ?_, h.operations⟩
    obtain ⟨old, hold, heq⟩ := mem_map.mp hmem
    exact hoperation old hold heq
  claims := by
    rw [map_cons, nodup_cons]
    refine ⟨fun hmem => ?_, h.claims⟩
    obtain ⟨old, hold, heq⟩ := mem_map.mp hmem
    exact hclaim old hold heq

end JournalReportable

lemma validSHA256Text_of_valid {env : Env} (henv : env.Lawful)
    (h : validateActivityOwnershipClaim env claim) : validSHA256Text env claim.claimID := by
  simp only [validateActivityOwnershipClaim, Bool.and_eq_true, beq_iff_eq] at h
  rw [h.1.2]
  exact henv.digest_hex _

lemma positive_of_valid {env : Env} (h : validateActivityOwnershipClaim env claim) :
    0 < claim.controllerGeneration ∧ 0 < claim.activityEpoch := by
  simp only [validateActivityOwnershipClaim, Bool.and_eq_true,
    decide_eq_true_eq] at h
  exact ⟨h.1.1.1.1.1.2, h.1.1.1.1.2⟩

/-! ## What a step keeps -/

namespace ReportingAgent.Reportable

variable {env : Env} {config : ModeConfig} {s s' : ReportingAgent} {now : ℤ}

lemma takeover (h : s.Reportable env) (henv : env.Lawful) (hnow : s.clock ≤ now)
    {request : OwnershipTakeoverRequest} {parent : ActivityOwnershipClaim}
    (hkeeps : s.keepsReports env config (.takeover now request parent))
    (hstep : s.takeover env config now request parent = some s') : s'.Reportable env := by
  unfold ReportingAgent.takeover at hstep
  split at hstep
  case isFalse => cases hstep
  next hrequest =>
    obtain ⟨claim, hclaim, rfl⟩ := map_eq_some_iff.mp hstep
    simp only [keepsReports, hclaim, Option.all_some, Bool.and_eq_true,
      decide_eq_true_eq, bne_iff_ne, List.all_eq_true] at hkeeps
    obtain ⟨⟨hhandle, hgeneration⟩, hne, hfresh⟩ := hkeeps
    simp only [Bool.and_eq_true, decide_eq_true_eq,
      List.all_eq_true, bne_iff_ne] at hrequest
    obtain ⟨⟨⟨⟨⟨⟨⟨-, -⟩, hoperation⟩, hparent⟩, -⟩, -⟩, hnew⟩, hroom⟩ := hrequest
    obtain ⟨hvalid, hof, -, hgen, hepoch, -, hkind, -, -⟩ :=
      makeActivityOwnershipClaim_eq_some hclaim
    have hlater := h.tick hnow
    have hpositive := positive_of_valid hvalid
    have hsequence := takeoverSequence_pos_of_valid hvalid hkind
    have hentry : validTakeover env s.runtime.highestGeneration now
        { operationID := request.operationID, handle := claim.handle,
          parentClaimID := parent.claimID, claimID := claim.claimID,
          controllerGeneration := claim.controllerGeneration, activityEpoch := claim.activityEpoch,
          takeoverSequence := claim.takeoverSequence, confirmedAt := now } := by
      have hclock := hlater.started
      have hle : claim.controllerGeneration ≤ s.runtime.highestGeneration := by
        rwa [hgen]
      have hskew : now ≤ now + acceptedSkew := by
        rw [acceptedSkew]
        omega
      have hother : (parent.claimID != claim.claimID) := bne_iff_ne.mpr hne.symm
      simp only [validTakeover, hoperation, hof, hhandle, validSHA256Text_of_valid henv hparent,
        validSHA256Text_of_valid henv hvalid, hother, hpositive.1, hpositive.2, hle, hsequence,
        hskew, Bool.and_self, decide_true, Bool.and_true, Bool.true_and]
      exact decide_eq_true hclock
    exact { hlater with journal := hlater.journal.cons hroom hentry hnew hfresh }

lemma success (h : s.Reportable env) (hnow : s.clock ≤ now)
    (hmode : response.desiredMode ≠ .independent) (acknowledged : List String) :
    (s.success now response acknowledged).Reportable env := by
  have hlater := h.tick hnow
  obtain ⟨hhighest, hcontrol⟩ := recordControllerSuccess_cases (now / 1000)
    { response with acknowledgementsValid := validAcknowledgements acknowledged } s.runtime
  have hjournal := hlater.journal.mono hhighest (Int.le_refl _)
  refine ⟨hlater.started, ?_, hlater.generation.trans_le hhighest, ?_, hlater.pending, ?_⟩
  · rcases hcontrol with hsame | ⟨hpositive, happlied⟩
    · rw [ReportingAgent.success, hsame]
      exact hlater.evidenced
    · rw [ReportingAgent.success, happlied]
      exact h.evidenced.applyDecision hnow hmode hpositive
  · rcases hcontrol with hsame | ⟨-, happlied⟩
    · rw [ReportingAgent.success, hsame]
      exact h.counted
    · rw [ReportingAgent.success, happlied, applyDecision_pendingUserSyncs]
      exact h.counted
  · simp only [ReportingAgent.success]
    split
    · exact hjournal
    · exact hjournal.sublist List.filter_sublist

lemma pending_of_adapterListValid (hlist : adapterListValid now pending) {activeIndependent : ℕ}
    (hkeeps : s.keepsReports env config (.sessionFacts now activeIndependent pending)) :
    PendingReportable env now pending := by
  simp only [adapterListValid, Bool.and_eq_true,
    decide_eq_true_eq, List.all_eq_true] at hlist
  simp only [keepsReports, Bool.and_eq_true, decide_eq_true_eq,
    List.all_eq_true] at hkeeps
  refine ⟨hkeeps.1.1, fun user hmem => ?_, hlist.2, hkeeps.2⟩
  have hadapter := hlist.1.2 user hmem
  simp only [adapterPendingValid, Bool.and_eq_true,
    decide_eq_true_eq] at hadapter
  obtain ⟨⟨⟨⟨-, hmarker⟩, hchanged⟩, hskew⟩, hreason⟩ := hadapter
  obtain ⟨hset, hsize, htrimmed, hbreak⟩ := reason_of_safeInventoryString hreason
  simp [validPendingUser, hkeeps.1.2 user hmem, hmarker, hchanged, hskew, bne_iff_ne.mp hset,
    hsize, htrimmed, hbreak]

lemma step (h : s.Reportable env) (henv : env.Lawful) {act : ReportAct}
    (hkeeps : s.keepsReports env config act)
    (hstep : reportStep env config s act = some s') : s'.Reportable env := by
  have hclock : ∀ {now : ℤ}, ¬ now < s.clock → s.clock ≤ now := fun hnot => Int.not_lt.mp hnot
  cases act with
  | failure now healthProbeFailed peerQuorumConfirmed =>
    obtain ⟨hnow, ⟨⟩⟩ := ite_none_left_eq_some.mp hstep
    have hlater := h.tick (hclock hnow)
    have hevidenced := h.evidenced.recordControllerFailure (hclock hnow) config healthProbeFailed
      peerQuorumConfirmed
    have hcounted := (recordControllerFailure_pendingUserSyncs config (now / 1000)
      healthProbeFailed peerQuorumConfirmed s.runtime.control).trans h.counted
    exact { hlater with evidenced := hevidenced, counted := hcounted }
  | success now response acknowledged =>
    obtain ⟨hnow, ⟨⟩⟩ := ite_none_left_eq_some.mp hstep
    exact h.success (hclock hnow) (of_decide_eq_true hkeeps) acknowledged
  | restart now =>
    obtain ⟨hnow, ⟨⟩⟩ := ite_none_left_eq_some.mp hstep
    have hle : s.clock ≤ now := hclock fun hlt => hnow (.inl hlt)
    have hlater := h.tick hle
    have hhighest : s.runtime.highestGeneration ≤
        max s.runtime.highestGeneration config.controllerGeneration := le_max_left _ _
    exact { hlater with
      evidenced := h.evidenced.loadRuntimeState hle config _
      generation := hlater.generation.trans_le hhighest
      counted := (loadRuntimeState_pendingUserSyncs ..).trans h.counted
      journal := hlater.journal.mono hhighest (Int.le_refl _) }
  | syncMode answer =>
    cases hstep
    have hhighest : (s.runtime.syncTavernControlMode config answer).highestGeneration =
        s.runtime.highestGeneration := by
      unfold ModeRuntime.syncTavernControlMode
      repeat' split
      all_goals rfl
    have hcount : ∀ response ∈ answer, s.runtime.answersMode response →
        response.pendingUserSyncs = (s.pendingUsers.length : ℤ) := by
      rintro response ⟨⟩ hanswers
      simpa [keepsReports, hanswers] using hkeeps
    exact { h with
      evidenced := h.evidenced.syncTavernControlMode config answer
      generation := h.generation.trans_eq hhighest.symm
      counted := syncTavernControlMode_pendingUserSyncs config h.counted hcount
      journal := h.journal.mono hhighest.ge (Int.le_refl _) }
  | sessionFacts now activeIndependent pending =>
    obtain ⟨hguard, ⟨⟩⟩ := ite_none_left_eq_some.mp hstep
    rw [not_or, Bool.not_eq_false] at hguard
    have hlater := h.tick (hclock hguard.1)
    have hpending := pending_of_adapterListValid hguard.2 hkeeps
    have hevidenced := hlater.evidenced
    exact { hlater with
      evidenced := { hevidenced with }, counted := length_map .., pending := hpending }
  | command generation =>
    obtain ⟨runtime, haccept, rfl⟩ := map_eq_some_iff.mp hstep
    obtain ⟨hle, ⟨⟩⟩ := ite_none_left_eq_some.mp haccept
    have hhighest : s.runtime.highestGeneration ≤ generation := Int.not_lt.mp hle
    exact { h with
      generation := h.generation.trans_le hhighest
      journal := h.journal.mono hhighest (Int.le_refl _) }
  | takeover now request parent =>
    obtain ⟨hnow, hafter⟩ := ite_none_left_eq_some.mp hstep
    exact h.takeover henv (hclock hnow) hkeeps hafter
  | takeoverSucceeded now operationID =>
    obtain ⟨hnow, ⟨⟩⟩ := ite_none_left_eq_some.mp hstep
    have hlater := h.tick (hclock hnow)
    exact { hlater with
      journal := h.journal.rewrite (hclock hnow) hlater.started operationID
        fun operation => .inr ⟨true, operation.audited, rfl⟩ }
  | takeoverAudited now operationID =>
    obtain ⟨hnow, ⟨⟩⟩ := ite_none_left_eq_some.mp hstep
    have hlater := h.tick (hclock hnow)
    refine { hlater with
      journal := h.journal.rewrite (hclock hnow) hlater.started operationID fun operation => ?_ }
    split
    · exact .inr ⟨operation.succeeded, true, rfl⟩
    · exact .inl rfl

end ReportingAgent.Reportable

lemma ReportingAgent.reportable_installed (env : Env) {config : ModeConfig} {start : ℤ}
    (hgeneration : 0 < config.controllerGeneration) (hstart : 0 < start) :
    (ReportingAgent.installed config start).Reportable env where
  started := hstart
  evidenced := .initial start
  generation := hgeneration
  counted := rfl
  pending := ⟨Nat.zero_le _, nofun, nodup_nil, nodup_nil⟩
  journal := ⟨Nat.zero_le _, nofun, nodup_nil, nodup_nil⟩

/-! ## Reports are accepted -/

/-- **Every report along a run that meets the condition is accepted.**  From a freshly installed
agent on, whatever fails, answers, restarts or is taken over: if every step of the run meets
`keepsReports`, then the report of the state that is reached passes `normalizeNodeControlMode` and
`validNodeControlModeFact`, at every instant from the clock of the agent on. -/
theorem reports_accepted {env : Env} (henv : env.Lawful) {config : ModeConfig} {start now : ℤ}
    (hgeneration : 0 < config.controllerGeneration) (hstart : 0 < start) {acts : List ReportAct}
    {s : ReportingAgent}
    (hrun : run (reportStep env config) (.installed config start) acts = some s)
    (hmeets : Meets (reportStep env config)
      (fun t act => t.keepsReports env config act = true) (.installed config start) acts)
    (hnow : s.clock ≤ now) : acceptsReport env s.controlModeReport now = true := by
  have hreportable : s.Reportable env :=
    run_invariant_of_meets (fun _ _ _ h hkeeps hstep => h.step henv hkeeps hstep)
      (ReportingAgent.reportable_installed env hgeneration hstart) hmeets hrun
  exact hreportable.accepted henv hnow

/-! ## A takeover, and two refused reports -/

open ThreeAgents in
lemma lawful_digests : Env.Lawful digests where
  digest_hex text := by
    have hgrant : validSHA256Text digests grantID := by decide +kernel
    have htakeover : validSHA256Text digests takeoverID := by decide +kernel
    simp only [digests]
    split
    · exact hgrant
    · exact htakeover
  toLower_handle _ _ := rfl

def reportingNode : ModeConfig := { sampleNode with nodeID := 2 }

def lossActs : List ReportAct :=
  [.failure 1700000000000 true true, .failure 1700000300000 true true,
    .failure 1700000600000 true true, .failure 1700000900000 true true]

open ThreeAgents in
/-- The controller is lost, the node takes over the activity of `alice`, the adapter reports that
`alice` has to be synchronised, and the controller comes back. -/
def reportingActs : List ReportAct :=
  lossActs ++
    [.takeover 1700001000000 ⟨"alice", grantID, operation⟩ granted,
      .takeoverSucceeded 1700001001000 operation, .takeoverAudited 1700001002000 operation,
      .sessionFacts 1700001003000 1
        [⟨"alice", "0a1b2c3d-4e5f-4a6b-8c7d-8e9f0a1b2c3d", 1700001002500, "independent_login"⟩],
      .success 1700001004000 ⟨1, .independentDraining, 4, true, true⟩ [], .restart 1700001005000]

/-- The agent after `reportingActs`. -/
def reportingState : ReportingAgent :=
  (run (reportStep digests reportingNode) (.installed reportingNode 1700000000000)
    reportingActs).getD (.installed reportingNode 1700000000000)

theorem reports_accepted_takeover :
    run (reportStep digests reportingNode) (.installed reportingNode 1700000000000)
        reportingActs = some reportingState ∧
      reportingState.controlModeReport.mode = .independentDraining ∧
      reportingState.controlModeReport.confirmedTakeovers.length = 1 ∧
      reportingState.controlModeReport.pendingUserSyncs = 1 ∧
      acceptsReport digests reportingState.controlModeReport 1700001006000 = true := by
  have hrun : run (reportStep digests reportingNode) (.installed reportingNode 1700000000000)
      reportingActs = some reportingState := by decide +kernel
  exact ⟨hrun, by decide +kernel, by decide +kernel, by decide +kernel,
    reports_accepted lawful_digests (by decide) (by decide) hrun (by decide +kernel)
      (by decide +kernel)⟩

/-- The adapter applies the mode and counts one pending user; the list that it sent last is
empty. -/
def syncedState : ReportingAgent :=
  (reportStep digests reportingNode (.installed reportingNode 1700000000000)
    (.syncMode (some ⟨true, .managed, 1, 0, 1⟩))).getD (.installed reportingNode 1700000000000)

/-- The controller is lost and answers a heartbeat that was signed with the credential of the
generation before it: it repeats the independent mode. -/
def echoedState : ReportingAgent :=
  (run (reportStep digests reportingNode) (.installed reportingNode 1700000000000)
    (lossActs ++ [.success 1700001000000 ⟨2, .independent, 3, true, true⟩ []])).getD
      (.installed reportingNode 1700000000000)

/-- **Reports that contradict themselves.**  After `syncTavernControlMode` alone the count of
pending users is not that of the list, and after the controller has repeated the independent mode
the evidence for it is gone; both reports are refused. -/
theorem reports_refused :
    run (reportStep digests reportingNode) (.installed reportingNode 1700000000000)
        [.syncMode (some ⟨true, .managed, 1, 0, 1⟩)] = some syncedState ∧
      normalizeNodeControlMode digests syncedState.controlModeReport 1700001000000 =
        .error "pending independent synchronization count mismatch" ∧
      run (reportStep digests reportingNode) (.installed reportingNode 1700000000000)
        (lossActs ++ [.success 1700001000000 ⟨2, .independent, 3, true, true⟩ []]) =
          some echoedState ∧
      normalizeNodeControlMode digests echoedState.controlModeReport 1700001000000 =
        .error "independent mode is missing activation time" := by
  decide +kernel

end StControl.Agent
