import Mathlib.Algebra.Group.Int.Defs
import Mathlib.Algebra.Group.Nat.Defs
import StControl.Agent.ControlMode

/-!
# The evidence for an independent node

An agent that is independent admits logins of its own, so it has to be sure that its controller is
lost: the heartbeats fail, the health probe fails and the peers agree, and all of this for long
enough.  The agent keeps counters and instants for this.  Here they are compared with the calls
themselves: `WatchedMode` lists the calls that took effect, newest first, and
`independent_on_sustained_evidence` finds the evidence at the head of that list.

The controller may also order the mode (`independent_by_decision`).  How long the evidence lasts is
configured; `normalizeDisasterPolicy` replaces a second threshold that is not above the first, and
does not look at the result again (`independent_before_unreachable`).
-/

namespace StControl.Agent

open Store (ControlMode NodeRole Time Duration)
open ControlModeState

/-! ## Calls and their history -/

/-- A call of `recordControllerFailure` or of `recordControllerSuccess`. -/
inductive ModeCall
  | failure (now : Time) (healthProbeFailed peerQuorumConfirmed : Bool)
  | success (now : Time) (response : HeartbeatResponse)

/-- The agent, and the calls that took effect, newest first.  A response that is rejected leaves no
trace in the control mode. -/
structure WatchedMode where
  runtime : ModeRuntime
  calls : List ModeCall

abbrev WatchedMode.mode (s : WatchedMode) : ControlMode := s.runtime.control.mode

variable (policy : NormalizedDisasterPolicy) (role : NodeRole) (now : Time)
  (healthProbeFailed peerQuorumConfirmed : Bool) (response : HeartbeatResponse)

def WatchedMode.call (s : WatchedMode) : ModeCall → WatchedMode
  | .failure now healthProbeFailed peerQuorumConfirmed =>
    { runtime := { s.runtime with
        control := s.runtime.control.recordFailureUnder policy role now healthProbeFailed
          peerQuorumConfirmed }
      calls := .failure now healthProbeFailed peerQuorumConfirmed :: s.calls }
  | .success now response =>
    let (runtime, rejection) := s.runtime.recordControllerSuccess now response
    ⟨runtime, if rejection = none then .success now response :: s.calls else s.calls⟩

def watch (runtime : ModeRuntime) (calls : List ModeCall) : WatchedMode :=
  calls.foldl (·.call policy role) ⟨runtime, []⟩

def confirmedAt (times : List Time) : List ModeCall := times.map (.failure · true true)

/-- The newest calls are failures that the probe and the peers confirm, so many and for so long. -/
def Sustained (calls : List ModeCall) (count : ℤ) (delay : Duration) (now : Time) : Prop :=
  ∃ times, confirmedAt times <+: calls ∧ count ≤ times.length ∧
    ∃ first ∈ times.getLast?, delay ≤ now - first

/-- A failure at `now` makes the agent independent. -/
def Opens (s : WatchedMode) (now : Time) (s' : WatchedMode) : Prop :=
  s.mode ≠ .independent ∧ s'.mode = .independent ∧ ∃ healthProbeFailed peerQuorumConfirmed,
    s' = s.call policy role (.failure now healthProbeFailed peerQuorumConfirmed)

def WatchedMode.Counted (s : WatchedMode) : Prop :=
  ∃ times, confirmedAt times <+: s.calls ∧
    times.length = s.runtime.control.consecutivePeerWitnessFails ∧
    times.getLast? = s.runtime.control.confirmedOutageStartedAt

lemma changeMode_spec (mode : ControlMode) (generation : ℤ) (c : ControlModeState) :
    let next := c.changeMode mode generation now
    next.mode = mode ∧ next.consecutivePeerWitnessFails = c.consecutivePeerWitnessFails ∧
      next.confirmedOutageStartedAt = c.confirmedOutageStartedAt := by
  unfold changeMode
  split
  · exact ⟨rfl, rfl, rfl⟩
  next hmode => exact ⟨(not_not.mp hmode).symm, rfl, rfl⟩

lemma recordFailureUnder_spec (c : ControlModeState) :
    let counted := c.countFailure now healthProbeFailed peerQuorumConfirmed
    let next := c.recordFailureUnder policy role now healthProbeFailed peerQuorumConfirmed
    next.consecutivePeerWitnessFails = counted.consecutivePeerWitnessFails ∧
      next.confirmedOutageStartedAt = counted.confirmedOutageStartedAt ∧
      (c.mode = .independentDraining → next.mode = .independentDraining) ∧
      (next.mode = .independent → c.mode = .independent ∨ counted.sustainedLoss policy now) := by
  refine ⟨(changeMode_spec ..).2.1, (changeMode_spec ..).2.2, fun hmode => ?_, fun hmode => ?_⟩
  · refine (changeMode_spec ..).1.trans ?_
    simp [countFailure, hmode]
  · have hmode := (changeMode_spec ..).1.symm.trans hmode
    grind [countFailure]

lemma rejected_or_quiet (s : ModeRuntime) :
    let next := s.recordControllerSuccess now response
    next.1.control = s.control ∧ next.2 ≠ none ∨ next.1.control.consecutivePeerWitnessFails = 0 ∧
        next.1.control.confirmedOutageStartedAt = none := by
  unfold ModeRuntime.recordControllerSuccess ModeRuntime.acceptGeneration
  split_ifs
  · exact .inl ⟨rfl, nofun⟩
  · exact .inl ⟨rfl, nofun⟩
  dsimp only
  split
  · exact .inl ⟨rfl, nofun⟩
  · refine .inr ?_
    simp only [applyDecision]
    grind [changeMode_spec]

variable {policy role now} {s s' : WatchedMode} {runtime : ModeRuntime}

lemma WatchedMode.Counted.call (h : s.Counted) (c : ModeCall) : (s.call policy role c).Counted := by
  cases c with
  | failure now healthProbeFailed peerQuorumConfirmed =>
    simp only [Counted, WatchedMode.call, (recordFailureUnder_spec ..).1,
      (recordFailureUnder_spec ..).2.1, countFailure]
    split
    next hconfirmed =>
      obtain ⟨rfl, rfl⟩ := (Bool.and_eq_true _ _).mp hconfirmed
      obtain ⟨times, hcalls, hlength, hlast⟩ := h
      refine ⟨now :: times, (List.prefix_cons_inj _).mpr hcalls, by simp [hlength], ?_⟩
      rw [List.getLast?_cons, hlast, ← hlength, ite_eq_right_iff.mpr]
      rintro hnil
      simp [← hlast, List.eq_nil_of_length_eq_zero hnil]
    · exact ⟨[], List.nil_prefix, rfl, rfl⟩
  | success now response =>
    rcases rejected_or_quiet now response s.runtime with ⟨hkept, hrejected⟩ | hended
    · simpa only [Counted, WatchedMode.call, hkept, if_neg hrejected] using h
    · exact ⟨[], List.nil_prefix, hended.1.symm, hended.2.symm⟩

def ControlModeState.Quiet (c : ControlModeState) : Prop :=
  c.consecutivePeerWitnessFails = 0 ∧ c.confirmedOutageStartedAt = none

lemma counted_watch (hquiet : runtime.control.Quiet) (calls : List ModeCall) :
    (watch policy role runtime calls).Counted := by
  refine List.foldlRecOn calls _ ?_ fun s hs c _ => hs.call c
  exact ⟨[], List.nil_prefix, hquiet.1.symm, hquiet.2.symm⟩

/-! ## The policy -/

/-- `time.Duration(seconds) * time.Second`: nanoseconds in 64 bits. -/
def secondsDuration (seconds : ℤ) : Duration := (seconds * 1000000000).bmod (2 ^ 64)

/-- `normalizeDisasterPolicy` in the arithmetic of `time.Duration`. -/
def normalizeDurations (disaster : AgentDisasterPolicy) : NormalizedDisasterPolicy :=
  let chosen := normalizeDisasterPolicy disaster
  { chosen with
    unreachableAfter := secondsDuration chosen.unreachableAfter
    independentAfter := secondsDuration chosen.independentAfter }

lemma secondsDuration_eq {seconds : ℤ} (hpos : 0 < seconds) (hfits : seconds ≤ 9223372036) :
    secondsDuration seconds = seconds * 1000000000 :=
  Int.bmod_eq_of_le (by omega) (by omega)

variable {disaster : AgentDisasterPolicy} {calls : List ModeCall}

lemma Opens.sustained (hquiet : runtime.control.Quiet)
    (hopens : Opens policy role (watch policy role runtime calls) now s') :
    Sustained s'.calls policy.minFailures policy.independentAfter now := by
  obtain ⟨hbefore, hafter, healthProbeFailed, peerQuorumConfirmed, rfl⟩ := hopens
  obtain ⟨times, hcalls, hlength, hlast⟩ := (counted_watch hquiet calls).call
    (.failure now healthProbeFailed peerQuorumConfirmed)
  obtain ⟨hcount, hconfirmed, -, hloss⟩ := recordFailureUnder_spec policy role now
    healthProbeFailed peerQuorumConfirmed (watch policy role runtime calls).runtime.control
  have hloss := (hloss hafter).resolve_left hbefore
  simp only [sustainedLoss, Bool.and_eq_true, decide_eq_true_eq,
    Option.any_eq_true, ← hcount, ← hconfirmed] at hloss
  obtain ⟨⟨⟨⟨first, hfirst, hlasted⟩, -⟩, -⟩, henough⟩ := hloss
  exact ⟨times, hcalls, hlength ▸ henough, first, hlast.trans hfirst, hlasted⟩

/-- **Independent only on sustained evidence.**  When a failure makes an agent independent that had
no evidence at the start, the newest calls are failures that the health probe and the peers confirm,
as many as configured and over the configured time.  Failures alone leave a draining agent as it
is. -/
theorem independent_on_sustained_evidence (hquiet : runtime.control.Quiet)
    (calls : List ModeCall) :
    let policy := normalizeDurations disaster
    let s := watch policy role runtime calls
    (∀ now s', Opens policy role s now s' →
        Sustained s'.calls policy.minFailures policy.independentAfter now) ∧
      (s.mode = .independentDraining → ∀ failures : List (Time × Bool × Bool),
        (failures.foldl (fun s f => s.call policy role (.failure f.1 f.2.1 f.2.2)) s).mode =
          .independentDraining) := by
  refine ⟨fun _ _ hopens => hopens.sustained hquiet, fun hmode failures => ?_⟩
  exact List.foldlRecOn (motive := (WatchedMode.mode · = .independentDraining)) failures _ hmode
    fun _ hs _ _ => (recordFailureUnder_spec ..).2.2.1 hs

def fourFailures : List ModeCall := confirmedAt [0, 300000000000, 600000000000, 900000000000]

def startedRuntime : ModeRuntime := ⟨.initial 0, 1, []⟩

theorem independent_on_sustained_evidence_fourth :
    let policy := normalizeDurations .default
    Sustained (watch policy .compute startedRuntime fourFailures).calls 4 policy.independentAfter
      900000000000 :=
  (independent_on_sustained_evidence ⟨rfl, rfl⟩ (fourFailures.take 3)).1 900000000000 _
    ⟨by decide +kernel, by decide +kernel, true, true, rfl⟩

/-- A decision of the controller for the mode `independent`. -/
def independentDecision (controllerGeneration : ℤ) : ModeCall :=
  .success 0 ⟨controllerGeneration, .independent, 2, true, true⟩

/-- **The controller may order the mode**, and a response that is rejected may stand between the
failures. -/
theorem independent_by_decision :
    let mode calls := (watch (normalizeDurations .default) .compute startedRuntime calls).mode
    mode [] = .managed ∧ mode [independentDecision 1] = .independent ∧
      mode (fourFailures.take 3 ++ independentDecision 0 :: fourFailures.drop 3) =
        .independent := by
  decide +kernel

/-- The thresholds in force, which are the configured ones or the defaults in their place, are
positive and in order as nanoseconds once whole multiples of `2 ^ 64` are left out of them. -/
def AgentDisasterPolicy.InOrder (disaster : AgentDisasterPolicy) : Prop :=
  let unreachable :=
    if disaster.unreachableAfterSec ≤ 0 then 45 else disaster.unreachableAfterSec
  let independent :=
    if disaster.independentAfterSec ≤ unreachable then 900 else disaster.independentAfterSec
  ∃ m n : ℤ, 0 < unreachable * 10 ^ 9 - 2 ^ 64 * m ∧
    unreachable * 10 ^ 9 - 2 ^ 64 * m < independent * 10 ^ 9 - 2 ^ 64 * n ∧
    independent * 10 ^ 9 - 2 ^ 64 * n < 2 ^ 63

lemma exists_secondsDuration (seconds : ℤ) : ∃ m d : ℤ, secondsDuration seconds = d ∧
    seconds * 10 ^ 9 - 2 ^ 64 * m = d ∧ -2 ^ 63 ≤ d ∧ d < 2 ^ 63 := by
  obtain ⟨m, hm⟩ : (2 ^ 64 : ℤ) ∣ seconds * 10 ^ 9 - (seconds * 10 ^ 9).bmod (2 ^ 64) :=
    Int.dvd_self_sub_bmod
  refine ⟨m, _, rfl, ?_, Int.le_bmod (by decide), Int.bmod_lt (by decide)⟩
  rw [← hm]
  exact Int.sub_sub_self _ _

lemma secondsDuration_unique {seconds m : ℤ} (hpos : 0 < seconds * 10 ^ 9 - 2 ^ 64 * m)
    (hlt : seconds * 10 ^ 9 - 2 ^ 64 * m < 2 ^ 63) :
    secondsDuration seconds = seconds * 10 ^ 9 - 2 ^ 64 * m := by
  obtain ⟨n, d, hd, hn, hlower, hupper⟩ := exists_secondsDuration seconds
  have hsame : n = m := by
    generalize seconds * 10 ^ 9 = nanoseconds at *
    omega
  rw [hd, ← hn, hsame]

lemma secondsDuration_ordered (unreachable independent : ℤ) :
    (∃ m n : ℤ, 0 < unreachable * 10 ^ 9 - 2 ^ 64 * m ∧
      unreachable * 10 ^ 9 - 2 ^ 64 * m < independent * 10 ^ 9 - 2 ^ 64 * n ∧
      independent * 10 ^ 9 - 2 ^ 64 * n < 2 ^ 63) ↔
    0 < secondsDuration unreachable ∧
      secondsDuration unreachable < secondsDuration independent := by
  constructor
  · rintro ⟨m, n, hpos, hordered, hfits⟩
    rw [secondsDuration_unique hpos (by omega), secondsDuration_unique (by omega) hfits]
    exact ⟨hpos, hordered⟩
  · rintro ⟨hpos, hordered⟩
    obtain ⟨m, d, hd, hm, -⟩ := exists_secondsDuration unreachable
    obtain ⟨n, d', hd', hn, -, hfits⟩ := exists_secondsDuration independent
    rw [hd] at hpos hordered
    rw [hd'] at hordered
    exact ⟨m, n, hm ▸ hpos, hm ▸ hn ▸ hordered, hn ▸ hfits⟩

lemma AgentDisasterPolicy.inOrder_iff :
    disaster.InOrder ↔ 0 < (normalizeDurations disaster).unreachableAfter ∧
      (normalizeDurations disaster).unreachableAfter <
        (normalizeDurations disaster).independentAfter :=
  secondsDuration_ordered _ _

lemma AgentDisasterPolicy.inOrder_iff_of_le
    (hunreachable : disaster.unreachableAfterSec ≤ 9223372036)
    (hindependent : disaster.independentAfterSec ≤ 9223372036) :
    disaster.InOrder ↔ disaster.unreachableAfterSec < 900 ∨
      disaster.unreachableAfterSec < disaster.independentAfterSec := by
  simp only [inOrder_iff, normalizeDurations, normalizeDisasterPolicy, AgentDisasterPolicy.default]
  change (0 : ℤ) < _ ∧ (_ : ℤ) < _ ↔ _
  split_ifs <;>
  · rw [secondsDuration_eq (by omega) (by omega), secondsDuration_eq (by omega) (by omega)]
    omega

/-- **Unreachable before independent.**  Two failures are needed under every policy.  The thresholds
of the normalized policy are positive and in order, and an agent becomes independent only in an
outage that lasts longer than the first, exactly if the seconds in force are in order in the
arithmetic of 64 bits.  Seconds that do not overflow are, if the configured ones are in order or the
first is below the default of the second. -/
theorem unreachable_before_independent (disaster : AgentDisasterPolicy) :
    let policy := normalizeDurations disaster
    2 ≤ policy.minFailures ∧
      (0 < policy.unreachableAfter ∧ policy.unreachableAfter < policy.independentAfter ∧
        (∀ role (runtime : ModeRuntime) calls now s', runtime.control.Quiet →
          Opens policy role (watch policy role runtime calls) now s' →
            Sustained s'.calls policy.minFailures policy.unreachableAfter now) ↔
        disaster.InOrder) ∧
      (disaster.unreachableAfterSec ≤ 9223372036 → disaster.independentAfterSec ≤ 9223372036 →
        (disaster.InOrder ↔ disaster.unreachableAfterSec < 900 ∨
          disaster.unreachableAfterSec < disaster.independentAfterSec)) := by
  refine ⟨?_, ?_, fun hunreachable hindependent =>
    AgentDisasterPolicy.inOrder_iff_of_le hunreachable hindependent⟩
  · simp only [normalizeDurations, normalizeDisasterPolicy, AgentDisasterPolicy.default]
    split <;> omega
  · rw [AgentDisasterPolicy.inOrder_iff]
    refine ⟨fun h => ⟨h.1, h.2.1⟩, fun ⟨hpos, hordered⟩ => ⟨hpos, hordered, ?_⟩⟩
    intro role runtime calls now s' hquiet hopens
    obtain ⟨times, hcalls, hcount, first, hfirst, hlasted⟩ := hopens.sustained hquiet
    exact ⟨times, hcalls, hcount, first, hfirst, Int.le_trans (Int.le_of_lt hordered) hlasted⟩

theorem unreachable_before_independent_default :
    AgentDisasterPolicy.default.InOrder ∧ AgentDisasterPolicy.InOrder ⟨45, 18446744174, 4⟩ :=
  ⟨((unreachable_before_independent .default).2.2 (by decide) (by decide)).mpr (by decide),
    0, 1, by decide, by decide, by decide⟩

/-- **Independent before unreachable.**  With the first threshold raised to an hour the agent is
independent after fifteen minutes, and a second threshold of three hundred years is negative. -/
theorem independent_before_unreachable :
    let policy := normalizeDurations ⟨3600, 900, 4⟩
    policy.independentAfter < policy.unreachableAfter ∧
      (watch policy .compute startedRuntime fourFailures).mode = .independent ∧
      (normalizeDurations ⟨45, 9223372037, 4⟩).independentAfter < 0 := by
  decide +kernel

end StControl.Agent
