import StControl.Agent.ControlMode

/-!
# Leaving the draining mode

A compute node that was independent comes back through `independent-draining`.  While it drains, the
adapter of the tavern is to close the entrance for new independent logins, and the node becomes
managed again only when the adapter has reported that no independent session and no unsynchronised
user is left.

Neither end asks whether the adapter has applied the draining mode at all.  The report of the agent
carries the counts that the adapter reported last, and if the calls of the adapter fail, these are
the counts of the time before: an agent that never counted a session sends zeros, the controller
answers `managed`, and the node leaves the draining mode while its adapter is still independent
(`draining_left_blindly`).  The agent does know better: `adapterMode` is the mode that the adapter
has confirmed, and a node leaves the draining mode as it should exactly when `adapterMode` is
`independent-draining` at that moment (`draining_left_iff`).

The adapter's reports and the changes of the mode are recorded in a log next to the link; nothing in
the model reads it.
-/

namespace StControl.Agent

open Run Option ControlModeState ModeRuntime
open Store (ControlMode NodeRole Time)

variable {c : ControlModeState} {act : ModeAct}

/-! ## The log -/

/-- What is recorded: a mode that the agent enters, and a report of the adapter that the agent
accepts, with the mode that it answers to if it is the answer of the control-mode route. -/
inductive ModeEvent
  | entered (mode : ControlMode)
  | report (applied : Option ControlMode) (activeIndependent pendingSyncs : ℕ)
  deriving DecidableEq

def ModeEvent.isReport : ModeEvent → Bool
  | .entered _ => false
  | .report .. => true

def ModeEvent.appliesDraining : ModeEvent → Bool
  | .report (some .independentDraining) _ _ => true
  | _ => false

def ModeEvent.reportsZero : ModeEvent → Bool
  | .report _ activeIndependent pendingSyncs => activeIndependent = 0 && pendingSyncs = 0
  | .entered _ => false

structure LoggedLink where
  link : ControlLink
  log : List ModeEvent

def enteredEvent (c c' : ControlModeState) : Option ModeEvent :=
  if c'.mode = c.mode then none else some (.entered c'.mode)

def adapterEvent (config : ModeConfig) (agent : ModeRuntime) : ModeAct → Option ModeEvent
  | .syncMode (some response) =>
    if agent.adapterCurrent = false ∧ config.role ≠ .storage ∧ agent.answersMode response then
      some (.report (some response.appliedMode) response.activeIndependentSessions.toNat
        response.pendingUserSyncs.toNat)
    else none
  | .sessionFacts activeIndependent pending => some (.report none activeIndependent pending.length)
  | _ => none

def loggedStep (config : ModeConfig) (s : LoggedLink) (act : ModeAct) : Option LoggedLink :=
  (modeStep config s.link act).map fun link =>
    { link := link
      log := (enteredEvent s.link.agent.control link.agent.control).toList ++
        ((adapterEvent config s.link.agent act).toList ++ s.log) }

def LoggedLink.enrolled (config : ModeConfig) (now : Time) : LoggedLink where
  link := .enrolled config now
  log := []

def sinceIndependent (log : List ModeEvent) : List ModeEvent :=
  log.takeWhile (· ≠ .entered .independent)

/-- Among these events the adapter has applied the draining mode, it has reported zeros then or
later, and no report after that one was different. -/
def Drained (recent : List ModeEvent) : Prop :=
  ∃ after zero before, recent = after ++ zero :: before ∧ zero.reportsZero ∧
    (∃ applied ∈ zero :: before, applied.appliesDraining) ∧
    ∀ later ∈ after, later.isReport → later.reportsZero

variable {recent : List ModeEvent}

lemma Drained.applied (h : Drained recent) : ∃ e ∈ recent, e.appliesDraining := by
  obtain ⟨after, zero, before, rfl, -, ⟨e, he, happlied⟩, -⟩ := h
  exact ⟨e, List.mem_append_right after he, happlied⟩

lemma drained_of_newest (happlied : ∃ e ∈ recent, e.appliesDraining)
    (hnewest : ∀ e, recent.find? ModeEvent.isReport = some e → e.reportsZero) : Drained recent := by
  obtain ⟨applied, hmem, hdraining⟩ := happlied
  have hreport : applied.isReport := by
    cases applied with
    | entered mode => cases hdraining
    | report _ _ _ => rfl
  obtain ⟨newest, hfind⟩ := isSome_iff_exists.mp
    (List.find?_isSome.mpr ⟨applied, hmem, hreport⟩)
  obtain ⟨hnew, after, before, rfl, hafter⟩ := List.find?_eq_some_iff_append.mp hfind
  have hlater : ∀ later ∈ after, ¬ later.isReport := by
    intro later hlater hisReport
    have := hafter later hlater
    simp [hisReport] at this
  refine ⟨after, newest, before, rfl, hnewest newest hfind, ⟨applied, ?_, hdraining⟩,
    fun later hmem' hisReport => absurd hisReport (hlater later hmem')⟩
  rcases List.mem_append.mp hmem with hin | hin
  · exact absurd hreport (hlater applied hin)
  · exact hin

/-! ## Steps that change the mode -/

/-- A step in which the adapter has no part: the counts stay, a new mode has still to be applied,
and the draining mode is entered from the independent one only. -/
structure ModeMove (c c' : ControlModeState) : Prop where
  sessions : c'.activeIndependentSessions = c.activeIndependentSessions
  pending : c'.pendingUserSyncs = c.pendingUserSyncs
  adapter : c'.adapterMode = if c'.mode = c.mode then c.adapterMode else none
  drains : c'.mode = .independentDraining → c.mode = .independent ∨ c.mode = .independentDraining

lemma ModeMove.refl (c : ControlModeState) : ModeMove c c :=
  ⟨rfl, rfl, (if_pos rfl).symm, .inr⟩

variable {now : Time} {response : HeartbeatResponse}

lemma modeMove_changeMode {mode : ControlMode} {generation : ℤ}
    (hdrains : mode = .independentDraining → c.mode = .independent ∨
      c.mode = .independentDraining) :
    ModeMove c (c.changeMode mode generation now) := by
  unfold changeMode
  split
  next hne => exact ⟨rfl, rfl, (if_neg hne).symm, hdrains⟩
  next => exact .refl c

lemma modeMove_recordControllerFailure (config : ModeConfig) (now : Time)
    (healthProbeFailed peerQuorumConfirmed : Bool) (c : ControlModeState) :
    ModeMove c (c.recordControllerFailure config now healthProbeFailed peerQuorumConfirmed) := by
  have hchange : ∀ mode, (mode = .independentDraining →
      c.mode = .independent ∨ c.mode = .independentDraining) →
      ModeMove c ((c.countFailure now healthProbeFailed peerQuorumConfirmed).changeMode mode
        (c.modeGeneration + 1) now) := by
    intro mode hdrains
    have h : ModeMove (c.countFailure now healthProbeFailed peerQuorumConfirmed)
        ((c.countFailure now healthProbeFailed peerQuorumConfirmed).changeMode mode
          (c.modeGeneration + 1) now) := modeMove_changeMode hdrains
    exact { h with }
  refine ⟨(hchange _ ?_).sessions, (hchange _ ?_).pending, (hchange _ ?_).adapter,
    (hchange _ ?_).drains⟩ <;>
  · intro hmode
    simp only [countFailure] at hmode
    grind

lemma modeMove_loadRuntimeState (config : ModeConfig) (now : Time) (s : ModeRuntime) :
    ModeMove s.control (s.loadRuntimeState config now).control := by
  unfold loadRuntimeState
  split
  next hlegacy =>
    have h : ModeMove s.control
        (s.control.changeMode .independentDraining (s.control.modeGeneration + 1) now) :=
      modeMove_changeMode fun _ => .inl hlegacy.1
    exact { h with }
  next => exact .refl s.control

lemma modeMove_applyDecision (hdrains : response.desiredMode = .independentDraining →
      c.mode = .independent ∨ c.mode = .independentDraining) :
    ModeMove c (c.applyDecision now response) := by
  have hdesired : c.desired response = .independentDraining →
      c.mode = .independent ∨ c.mode = .independentDraining := by
    unfold desired
    split
    next hskip => exact fun _ => .inl hskip.1
    next => exact hdrains
  refine ⟨?_, ?_, ?_, fun hmode => hdesired ?_⟩
  · unfold applyDecision changeMode
    grind
  · unfold applyDecision changeMode
    grind
  · unfold applyDecision changeMode
    grind
  · rwa [applyDecision_mode] at hmode

lemma modeMove_recordControllerSuccess {s : ModeRuntime}
    (hdrains : response.desiredMode = .independentDraining →
      s.control.mode = .independent ∨ s.control.mode = .independentDraining) :
    ModeMove s.control (s.recordControllerSuccess now response).1.control := by
  unfold recordControllerSuccess
  split
  · exact .refl _
  split
  · exact .refl _
  next s₁ haccept =>
    have hcontrol : s₁.control = s.control := acceptGeneration_control haccept
    split
    · rw [hcontrol]
      exact .refl _
    · rw [hcontrol]
      exact modeMove_applyDecision hdrains

lemma counts_zero_of_managed {s : ModeRuntime} (hbefore : s.control.mode = .independentDraining)
    (hafter : (s.recordControllerSuccess now response).1.control.mode = .managed) :
    s.control.activeIndependentSessions = 0 ∧ s.control.pendingUserSyncs = 0 := by
  unfold recordControllerSuccess at hafter
  split at hafter
  · cases hbefore.symm.trans hafter
  split at hafter
  · cases hbefore.symm.trans hafter
  next s₁ haccept =>
    have hcontrol : s₁.control = s.control := acceptGeneration_control haccept
    split at hafter
    · rw [hcontrol, hbefore] at hafter
      cases hafter
    next haccepted =>
      rw [applyDecision_mode] at hafter
      unfold rejects at haccepted
      grind

/-! ## What the log says about the agent -/

/-- The counts of the agent are those of the newest report; the adapter has applied the draining
mode since the agent was last independent exactly if the agent says so; and the controller asks a
node to drain only if it was independent. -/
structure LoggedLink.Faithful (s : LoggedLink) : Prop where
  counts : ∀ applied n p, s.log.find? ModeEvent.isReport = some (.report applied n p) →
    s.link.agent.control.activeIndependentSessions = n ∧ s.link.agent.control.pendingUserSyncs = p
  independent : s.link.agent.control.mode = .independent →
    ∀ e ∈ sinceIndependent s.log, ¬ e.appliesDraining
  draining : s.link.agent.control.mode = .independentDraining →
    (s.link.agent.control.adapterMode = some .independentDraining ↔
      ∃ e ∈ sinceIndependent s.log, e.appliesDraining)
  decided : ∀ decision ∈ s.link.inFlight, decision.desiredMode = .independentDraining →
    s.link.agent.control.mode = .independent ∨ s.link.agent.control.mode = .independentDraining

lemma LoggedLink.faithful_enrolled (config : ModeConfig) (now : Time) :
    (LoggedLink.enrolled config now).Faithful :=
  ⟨nofun, nofun, nofun, nofun⟩

namespace LoggedLink.Faithful

variable {config : ModeConfig} {s : LoggedLink}

open ModeEvent

section

variable (h : s.Faithful)
include h

lemma move (link : ControlLink) (hmove : ModeMove s.link.agent.control link.agent.control)
    (hdecided : ∀ decision ∈ link.inFlight, decision.desiredMode = .independentDraining →
      link.agent.control.mode = .independent ∨ link.agent.control.mode = .independentDraining) :
    ({ link := link
       log := (enteredEvent s.link.agent.control link.agent.control).toList ++ s.log } :
      LoggedLink).Faithful := by
  by_cases hmode : link.agent.control.mode = s.link.agent.control.mode
  · -- The mode stays: the log and what it says stay as well.
    have hadapter : link.agent.control.adapterMode = s.link.agent.control.adapterMode := by
      rw [hmove.adapter, if_pos hmode]
    rw [enteredEvent, if_pos hmode]
    refine ⟨fun applied n p hfind => ?_, fun hind => ?_, fun hdrain => ?_, hdecided⟩
    · rw [hmove.sessions, hmove.pending]
      exact h.counts applied n p hfind
    · exact h.independent (hmode.symm.trans hind)
    · show link.agent.control.adapterMode = _ ↔ _
      rw [hadapter]
      exact h.draining (hmode.symm.trans hdrain)
  · have hadapter : link.agent.control.adapterMode = none := by
      rw [hmove.adapter, if_neg hmode]
    rw [enteredEvent, if_neg hmode]
    refine ⟨fun applied n p hfind => ?_, fun hind => ?_, fun hdrain => ?_, hdecided⟩
    · rw [hmove.sessions, hmove.pending]
      exact h.counts applied n p hfind
    · have hind' : link.agent.control.mode = .independent := hind
      simp [sinceIndependent, hind']
    · have hdrain' : link.agent.control.mode = .independentDraining := hdrain
      have hwas : s.link.agent.control.mode = .independent :=
        (hmove.drains hdrain').resolve_right fun hwas => hmode (hdrain'.trans hwas.symm)
      have hnone := h.independent hwas
      rw [hadapter, hdrain']
      simpa [sinceIndependent, appliesDraining] using hnone

lemma reported {agent : ModeRuntime} {applied : Option ControlMode} {n p : ℕ}
    (hmode : agent.control.mode = s.link.agent.control.mode)
    (hsessions : agent.control.activeIndependentSessions = n)
    (hpending : agent.control.pendingUserSyncs = p) (happlied : applied = none ∧
      agent.control.adapterMode = s.link.agent.control.adapterMode ∨ applied = some
      agent.control.mode ∧ agent.control.adapterMode = some agent.control.mode) :
    ({ link := { s.link with agent := agent }
       log := .report applied n p :: s.log } : LoggedLink).Faithful := by
  have hrecent : sinceIndependent (.report applied n p :: s.log) =
      .report applied n p :: sinceIndependent s.log := by simp [sinceIndependent]
  refine ⟨fun applied' n' p' hfind => ?_, fun hind => ?_, fun hdrain => ?_, fun d hd hdesired => ?_⟩
  · cases hfind
    exact ⟨hsessions, hpending⟩
  · have hind' : agent.control.mode = .independent := hind
    have hnone := h.independent (hmode.symm.trans hind')
    rw [hrecent]
    rcases happlied with ⟨rfl, -⟩ | ⟨rfl, -⟩
    · simpa [appliesDraining] using hnone
    · rw [hind']
      simpa [appliesDraining] using hnone
  · have hdrain' : agent.control.mode = .independentDraining := hdrain
    have hiff := h.draining (hmode.symm.trans hdrain')
    rw [hrecent]
    rcases happlied with ⟨rfl, hadapter⟩ | ⟨rfl, hadapter⟩
    · rw [hadapter, hiff]
      simp [appliesDraining]
    · rw [hadapter, hdrain']
      simp [appliesDraining]
  · show agent.control.mode = _ ∨ agent.control.mode = _
    rw [hmode]
    exact h.decided d hd hdesired

lemma syncMode (hrole : config.role = .compute) (answer : Option AdapterResponse) :
    ({ link := { s.link with agent := s.link.agent.syncTavernControlMode config answer }
       log := (adapterEvent config s.link.agent (.syncMode answer)).toList ++ s.log } :
      LoggedLink).Faithful := by
  have hstorage : config.role ≠ .storage := by rw [hrole]; decide
  by_cases hcurrent : s.link.agent.adapterCurrent
  · have hevent : adapterEvent config s.link.agent (.syncMode answer) = none := by
      cases answer with
      | none => rfl
      | some response => exact if_neg fun hcall => by simp [hcurrent] at hcall
    rwa [hevent, syncTavernControlMode.eq_def, if_pos hcurrent]
  · have hcall : s.link.agent.adapterCurrent = false := by simpa using hcurrent
    cases answer with
    | none =>
      rwa [syncTavernControlMode.eq_def, if_neg hcurrent, if_neg hstorage]
    | some response =>
      rw [syncTavernControlMode.eq_def, if_neg hcurrent, if_neg hstorage]
      dsimp only
      by_cases hanswer : s.link.agent.answersMode response
      · have happlied : response.appliedMode = s.link.agent.control.mode := by
          simp only [answersMode, Bool.and_eq_true,
            decide_eq_true_eq] at hanswer
          exact hanswer.1.1.1.2
        rw [if_pos hanswer, adapterEvent, if_pos ⟨hcall, hstorage, hanswer⟩]
        exact h.reported rfl rfl rfl (.inr ⟨congrArg some happlied, congrArg some happlied⟩)
      · rwa [if_neg hanswer, adapterEvent, if_neg fun hcall' => hanswer hcall'.2.2]

lemma step (hrole : config.role = .compute) {s' : LoggedLink}
    (hstep : loggedStep config s act = some s') : s'.Faithful := by
  obtain ⟨link, hlink, rfl⟩ := map_eq_some_iff.mp hstep
  cases act with
  | heartbeat ctx =>
    simp only [modeStep] at hlink
    split at hlink
    · cases hlink
    split at hlink
    · cases hlink
      exact h.move s.link (.refl _) h.decided
    next row decision hdecision =>
      cases hlink
      refine h.move { s.link with row := row, inFlight := some decision } (.refl _) ?_
      rintro d ⟨⟩ hdesired
      rcases reconcileNodeControlMode_cases hdecision with ⟨-, -, -, hmode, -⟩ | ⟨-, hmode, -⟩
      · rw [hmode, wanted, Store.desiredControlMode.eq_def] at hdesired
        grind
      · exact .inr (hmode.symm.trans hdesired)
  | deliver now acknowledgementsValid leasesValid =>
    obtain ⟨decision, hdecision, rfl⟩ := map_eq_some_iff.mp hlink
    exact h.move _ (modeMove_recordControllerSuccess (h.decided decision hdecision))
      fun _ hnone => by cases hnone
  | failure now healthProbeFailed peerQuorumConfirmed =>
    cases hlink
    exact h.move _ (modeMove_recordControllerFailure config now healthProbeFailed
      peerQuorumConfirmed s.link.agent.control) fun _ hnone => by cases hnone
  | restart now =>
    cases hlink
    exact h.move _ (modeMove_loadRuntimeState config now s.link.agent)
      fun _ hnone => by cases hnone
  | syncMode answer =>
    cases hlink
    have hmode := (syncTavernControlMode_mode config answer s.link.agent).1
    rw [enteredEvent, if_pos hmode]
    exact h.syncMode hrole answer
  | sessionFacts activeIndependent pending =>
    cases hlink
    have hmode : (s.link.agent.recordAdapterSessionFacts activeIndependent pending).control.mode =
        s.link.agent.control.mode := rfl
    rw [enteredEvent, if_pos hmode]
    exact h.reported hmode rfl rfl (.inl ⟨rfl, rfl⟩)
  | command generation =>
    obtain ⟨agent, haccept, rfl⟩ := map_eq_some_iff.mp hlink
    have hcontrol := acceptGeneration_control haccept
    refine h.move { s.link with agent := agent } ?_ fun d hd hdesired => ?_
    · show ModeMove s.link.agent.control agent.control
      rw [hcontrol]
      exact .refl _
    · show agent.control.mode = _ ∨ agent.control.mode = _
      rw [hcontrol]
      exact h.decided d hd hdesired

end

end LoggedLink.Faithful

lemma LoggedLink.faithful_of_run {config : ModeConfig} (hrole : config.role = .compute)
    {start : Time} {acts : List ModeAct} {s : LoggedLink}
    (hrun : run (loggedStep config) (.enrolled config start) acts = some s) : s.Faithful :=
  run_invariant (fun _ _ _ h hstep => h.step hrole hstep) (faithful_enrolled config start) hrun

lemma counts_zero_of_step {config : ModeConfig} {s s' : ControlLink}
    (hstep : modeStep config s act = some s')
    (hbefore : s.agent.control.mode = .independentDraining)
    (hafter : s'.agent.control.mode = .managed) :
    s.agent.control.activeIndependentSessions = 0 ∧ s.agent.control.pendingUserSyncs = 0 := by
  have hkept : s'.agent.control.mode = s.agent.control.mode → False := by
    rw [hafter, hbefore]
    exact nofun
  cases act with
  | heartbeat ctx =>
    simp only [modeStep] at hstep
    split at hstep
    · cases hstep
    split at hstep <;> cases hstep <;> exact absurd rfl hkept
  | deliver now acknowledgementsValid leasesValid =>
    obtain ⟨decision, -, rfl⟩ := map_eq_some_iff.mp hstep
    exact counts_zero_of_managed hbefore hafter
  | failure now healthProbeFailed peerQuorumConfirmed =>
    cases hstep
    have hmanaged : (s.agent.control.recordControllerFailure config now healthProbeFailed
        peerQuorumConfirmed).mode = .managed := hafter
    unfold recordControllerFailure recordFailureUnder changeMode countFailure at hmanaged
    grind
  | restart now =>
    cases hstep
    have hmanaged : (s.agent.loadRuntimeState config now).control.mode = .managed := hafter
    rw [loadRuntimeState, if_neg (by simp [hbefore])] at hmanaged
    cases hbefore.symm.trans hmanaged
  | syncMode answer =>
    cases hstep
    exact absurd (syncTavernControlMode_mode config answer s.agent).1 hkept
  | sessionFacts activeIndependent pending =>
    cases hstep
    exact absurd rfl hkept
  | command generation =>
    obtain ⟨agent, haccept, rfl⟩ := map_eq_some_iff.mp hstep
    exact absurd (congrArg mode (acceptGeneration_control haccept)) hkept

/-! ## The exit -/

/-- **The exit from the draining mode.**  Whenever a compute agent goes from the draining to the
managed mode, the adapter has applied the draining mode since the agent was last independent, and
has reported zeros then or later with no other report after that, if and only if the agent has the
draining mode on record as applied at that moment. -/
theorem draining_left_iff {config : ModeConfig} (hrole : config.role = .compute) {start : Time}
    {acts : List ModeAct} {s s' : LoggedLink} {act : ModeAct}
    (hrun : run (loggedStep config) (.enrolled config start) acts = some s)
    (hstep : loggedStep config s act = some s')
    (hbefore : s.link.agent.control.mode = .independentDraining)
    (hafter : s'.link.agent.control.mode = .managed) : Drained (sinceIndependent s.log) ↔
      s.link.agent.control.adapterMode = some .independentDraining := by
  have hfaithful := LoggedLink.faithful_of_run hrole hrun
  obtain ⟨link, hlink, rfl⟩ := map_eq_some_iff.mp hstep
  obtain ⟨hsessions, hpending⟩ := counts_zero_of_step hlink hbefore hafter
  rw [hfaithful.draining hbefore]
  refine ⟨Drained.applied, fun happlied => drained_of_newest happlied fun e hfind => ?_⟩
  -- The newest report since the independent mode is the newest of all, and the agent has its
  -- counts.
  have hnewest : s.log.find? ModeEvent.isReport = some e := by
    rw [← List.takeWhile_append_dropWhile (p := (· ≠ .entered .independent)) (l := s.log),
      List.find?_append]
    exact congrArg (Option.or · _) hfind
  cases e with
  | entered mode => exact nomatch List.find?_some hfind
  | report applied n p =>
    obtain ⟨rfl, rfl⟩ := hfaithful.counts applied n p hnewest
    simp [ModeEvent.reportsZero, hsessions, hpending]

def drainedAnswer : AdapterResponse where
  ok := true
  appliedMode := .independentDraining
  modeGeneration := 4
  activeIndependentSessions := 0
  pendingUserSyncs := 0

def drainedActs : List ModeAct :=
  outageActs ++ [.syncMode (some drainedAnswer), .heartbeat sampleContext]

def beforeExit : LoggedLink :=
  (run (loggedStep sampleNode) (.enrolled sampleNode 0) drainedActs).getD
    (.enrolled sampleNode 0)

def afterExit : LoggedLink :=
  (loggedStep sampleNode beforeExit (.deliver 930 true true)).getD beforeExit

theorem draining_left_iff_sample :
    run (loggedStep sampleNode) (.enrolled sampleNode 0) drainedActs = some beforeExit ∧
      loggedStep sampleNode beforeExit (.deliver 930 true true) = some afterExit ∧
      (Drained (sinceIndependent beforeExit.log) ↔
        beforeExit.link.agent.control.adapterMode = some .independentDraining) := by
  have hrun : run (loggedStep sampleNode) (.enrolled sampleNode 0) drainedActs =
      some beforeExit := rfl
  have hstep : loggedStep sampleNode beforeExit (.deliver 930 true true) = some afterExit := rfl
  have hbefore : beforeExit.link.agent.control.mode = .independentDraining := by decide +kernel
  have hafter : afterExit.link.agent.control.mode = .managed := by decide +kernel
  exact ⟨hrun, hstep, draining_left_iff rfl hrun hstep hbefore hafter⟩

def independentAnswer : AdapterResponse where
  ok := true
  appliedMode := .independent
  modeGeneration := 3
  activeIndependentSessions := 0
  pendingUserSyncs := 0

/-- The adapter becomes independent and is not reached again: neither the draining mode nor its
users arrive, and the controller decides on the counts of the time before. -/
def unreachableAdapterActs : List ModeAct :=
  [.failure 0 true true, .failure 300 true true, .failure 600 true true, .failure 900 true true,
    .syncMode (some independentAnswer), .heartbeat sampleContext, .deliver 915 true true,
    .syncMode none, .heartbeat sampleContext]

/-- A node leaves the draining mode although its adapter was never told to drain: it applied the
independent mode, and every later call of it failed. -/
theorem draining_left_blindly :
    ∃ acts s act s', run (loggedStep sampleNode) (.enrolled sampleNode 0) acts = some s ∧
      loggedStep sampleNode s act = some s' ∧ s.link.agent.control.mode = .independentDraining ∧
      s'.link.agent.control.mode = .managed ∧
      .report (some .independent) 0 0 ∈ sinceIndependent s.log ∧
      ¬ Drained (sinceIndependent s.log) := by
  refine ⟨unreachableAdapterActs, _, .deliver 930 true true, _, rfl, rfl, ?_, ?_, ?_,
    fun hdrained => ?_⟩
  · decide +kernel
  · decide +kernel
  · decide +kernel
  · obtain ⟨e, he, happlied⟩ := hdrained.applied
    revert e
    decide +kernel

end StControl.Agent
