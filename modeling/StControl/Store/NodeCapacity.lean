import Mathlib.Algebra.Order.Field.Rat
import Mathlib.Data.List.Induction
import StControl.Foundations.Run
import StControl.Store.Schema

/-!
# Capacity hysteresis

Every heartbeat moves the capacity state of its node.  Pressure that is hard makes the node full, at
once or when it lasts, and a full node is to stay full until a cooldown is over and the load was low
for a recovery period.  `CapacityWatch` says this without the timers of the row: it keeps when the
node became full and since when no sample was under hard pressure.

The state `unknown` has no timers, so one heartbeat without metrics ends the cooldown
(`cooldown_lost_without_metrics`).  What `AVG` makes of the reported figures is left open.
-/

namespace StControl.Store

open Run

/-! ## The decision -/

/-- `NodeHeartbeatFacts`, as far as the capacity depends on them. -/
structure NodeHeartbeatFacts where
  (cpuPct memPct diskPct : ℚ)
  metricsValid : Bool
  (diskAvailableBytes diskQuotaBytes allocatedDiskBytes onlineUsers taskQueueDepth : ℤ)
  observedAt : Time

/-- `NodeCapacityPolicy`, with what `validNodeCapacityPolicy` asks of it and the range of its
integers. -/
structure NodeCapacityPolicy where
  (cpuBusyPct memBusyPct diskBusyPct hardPct : ℚ)
  (window sustain recovery cooldown : Duration)
  (minDiskFreeBytes maxOnlineUsers maxTaskQueueDepth : ℤ)
  percents : hardPct ≤ 100 ∧ ∀ q ∈ [cpuBusyPct, memBusyPct, diskBusyPct], 0 ≤ q ∧ q < hardPct
  durations : 0 < window ∧ 0 < sustain ∧ 0 < recovery ∧ 0 < cooldown
  limits : 0 < minDiskFreeBytes ∧ 0 < maxOnlineUsers ∧ 0 < maxTaskQueueDepth
  fits : ∀ limit ∈ [minDiskFreeBytes, maxOnlineUsers, maxTaskQueueDepth], limit < 2 ^ 63

/-- `nodeMetricWindow`: the averages, which alone decide. -/
structure NodeMetricWindow where
  (cpuAvg memAvg diskAvg : ℚ)

/-- `nodeCapacityCursor`, and `nodeCapacityDecision`. -/
structure NodeCapacityCursor where
  state : CapacityState
  reason : String
  (pressureSince recoverySince : Option Time)
  changedAt : Time
  cooldownUntil : Option Time

variable (now : Time) (current : NodeCapacityCursor) (metrics : NodeHeartbeatFacts)
  (window : NodeMetricWindow) (policy : NodeCapacityPolicy)

def difference64 (a b : ℤ) : ℤ := (a - b).bmod (2 ^ 64)

/-- `DiskQuotaBytes - AllocatedDiskBytes`. -/
def NodeHeartbeatFacts.quotaLeft : ℤ :=
  difference64 metrics.diskQuotaBytes metrics.allocatedDiskBytes

/-- `nodeHardCapacityReason`; the flag says that the reason closes the node at once. -/
def nodeHardCapacityReason : String × Bool :=
  if metrics.diskAvailableBytes < policy.minDiskFreeBytes then ("disk_low_watermark", true)
  else if metrics.quotaLeft < policy.minDiskFreeBytes then ("quota_low_watermark", true)
  else if policy.maxOnlineUsers ≤ metrics.onlineUsers then ("online_user_limit", true)
  else if policy.maxTaskQueueDepth ≤ metrics.taskQueueDepth then ("task_queue_limit", true)
  else if policy.hardPct ≤ window.cpuAvg then ("cpu_sustained", false)
  else if policy.hardPct ≤ window.memAvg then ("memory_sustained", false)
  else if policy.hardPct ≤ window.diskAvg then ("disk_sustained", false)
  else ("", false)

def belowTwiceReserve (available reserve : ℤ) : Bool :=
  available < reserve || difference64 available reserve < reserve

def atLeastFourFifths (value limit : ℤ) : Bool := difference64 limit (limit.tdiv 5) ≤ value

def nodeBusyCapacityReason : String :=
  if belowTwiceReserve metrics.diskAvailableBytes policy.minDiskFreeBytes then "disk_low"
  else if belowTwiceReserve metrics.quotaLeft policy.minDiskFreeBytes then "quota_low"
  else if atLeastFourFifths metrics.onlineUsers policy.maxOnlineUsers then "online_users_busy"
  else if atLeastFourFifths metrics.taskQueueDepth policy.maxTaskQueueDepth then "task_queue_busy"
  else if policy.cpuBusyPct ≤ window.cpuAvg then "cpu_busy"
  else if policy.memBusyPct ≤ window.memAvg then "memory_busy"
  else if policy.diskBusyPct ≤ window.diskAvg then "disk_busy"
  else ""

/-- `capacityDecision`, for a row that has the time of its last change. -/
def capacityDecision (state : CapacityState) (reason : String)
    (pressureSince recoverySince cooldownUntil : Option Time) : NodeCapacityCursor where
  state
  reason
  pressureSince
  recoverySince
  changedAt := if current.state = state then current.changedAt else now
  cooldownUntil

def evaluateNodeCapacity : NodeCapacityCursor :=
  if !metrics.metricsValid then
    capacityDecision now current .unknown "metrics_unavailable" none none none
  else
    let (hardReason, immediate) := nodeHardCapacityReason metrics window policy
    let busyReason := nodeBusyCapacityReason metrics window policy
    let pressureSince :=
      if hardReason = "" || immediate then none else some (current.pressureSince.getD now)
    let hardSustained :=
      hardReason ≠ "" && (immediate || pressureSince.any fun t => t + policy.sustain ≤ now)
    if current.state = .full then
      if hardReason ≠ "" || busyReason ≠ "" then
        let reason := if hardSustained || immediate then hardReason else current.reason
        capacityDecision now current .full (if reason = "" then busyReason else reason)
          pressureSince none current.cooldownUntil
      else
        let recoverySince := current.recoverySince.getD now
        if current.cooldownUntil.all (· ≤ now) ∧ recoverySince + policy.recovery ≤ now then
          capacityDecision now current .opened "" none none none
        else
          capacityDecision now current .full current.reason none (some recoverySince)
            current.cooldownUntil
    else if hardSustained then
      capacityDecision now current .full hardReason pressureSince none
        (some (now + policy.cooldown))
    else if hardReason ≠ "" then
      capacityDecision now current .busy hardReason pressureSince none none
    else if busyReason ≠ "" then capacityDecision now current .busy busyReason none none none
    else capacityDecision now current .opened "" none none none

/-! ## The node over time -/

section

-- `AVG` over a `REAL` column: what the database makes of the reported figures
variable (average : List ℚ → ℚ)

/-- The window of `updateNodeHeartbeat`, which has the new sample in it. -/
def metricWindow (earlier : List NodeHeartbeatFacts) : NodeMetricWindow :=
  let samples := metrics :: earlier.filter fun sample =>
    metrics.observedAt - policy.window ≤ sample.observedAt
  ⟨average (samples.map (·.cpuPct)), average (samples.map (·.memPct)),
    average (samples.map (·.diskPct))⟩

/-- The columns of the node that decide its capacity, its rows of `node_metric_samples`, and what
the hysteresis is about: when the node became full, as long as it has not been open or busy again,
and since when no sample was under hard pressure. -/
structure CapacityWatch where
  cursor : NodeCapacityCursor
  reportedAt : Option Time
  samples : List NodeHeartbeatFacts
  (fullSince calmSince : Option Time)

/-- What can happen to the capacity: a heartbeat that passed the checks of its form and generation,
`MarkStaleNodesOffline` or a promotion that has the node among its rows, and
`CleanupNodeMetricSamples`. -/
inductive CapacityAct
  | heartbeat (facts : NodeHeartbeatFacts)
  | markOffline (now : Time)
  | promote (now : Time)
  | cleanup (before : Time)

/-- `updateNodeHeartbeat`: `none` for a heartbeat that is older than the last one. -/
def CapacityWatch.heartbeat (s : CapacityWatch) : Option CapacityWatch :=
  if s.reportedAt.any (metrics.observedAt < ·) then none
  else if s.reportedAt = some metrics.observedAt then some s
  else
    let now := metrics.observedAt
    let window := metricWindow metrics policy average s.samples
    let cursor := evaluateNodeCapacity now s.cursor metrics window policy
    let hard := metrics.metricsValid && (nodeHardCapacityReason metrics window policy).1 ≠ ""
    some {
      cursor
      reportedAt := some now
      samples := if metrics.metricsValid then metrics :: s.samples else s.samples
      fullSince :=
        match cursor.state with
        | .full => some (s.fullSince.getD now)
        | .unknown => s.fullSince
        | .opened | .busy => none
      calmSince := if hard || s.fullSince.isNone then none else some (s.calmSince.getD now) }

def capacityStep (s : CapacityWatch) : CapacityAct → Option CapacityWatch
  | .heartbeat facts => s.heartbeat facts policy average
  | .markOffline now => some { s with
      cursor := ⟨.unknown, "heartbeat_stale", none, none, now, none⟩ }
  | .promote now => some { s with
      cursor := ⟨.unknown, "controller_generation_promoted", none, none, now, none⟩ }
  | .cleanup before => some { s with
      samples := s.samples.filter fun sample => before ≤ sample.observedAt }

/-- A node that was full is reported open or busy only after the cooldown, and when no sample was
under hard pressure for the recovery period. -/
abbrev Hysteretic (s s' : CapacityWatch) : Prop :=
  ∀ since ∈ s.fullSince, s'.cursor.state = .opened ∨ s'.cursor.state = .busy →
    ∃ now ∈ s'.reportedAt, since + policy.cooldown ≤ now ∧
      ∃ calm ∈ s'.calmSince, calm + policy.recovery ≤ now

def keepsKnown (s : CapacityWatch) : CapacityAct → Bool
  | .heartbeat facts => s.fullSince.isNone || facts.metricsValid
  | .markOffline _ | .promote _ => s.fullSince.isNone
  | .cleanup _ => true

lemma evaluateNodeCapacity_of_full (hvalid : metrics.metricsValid) (hfull : current.state = .full) :
    let next := evaluateNodeCapacity now current metrics window policy
    let hard := (nodeHardCapacityReason metrics window policy).1 ≠ ""
    next.state = .full ∧ next.cooldownUntil = current.cooldownUntil ∧ (next.recoverySince = none ∨
          ¬ hard ∧ next.recoverySince = some (current.recoverySince.getD now)) ∨
      next.state = .opened ∧ ¬ hard ∧ current.cooldownUntil.all (· ≤ now) ∧
        current.recoverySince.getD now + policy.recovery ≤ now := by
  intro next hard
  simp only [next, hard, evaluateNodeCapacity, hvalid, hfull, Bool.not_true, Bool.false_eq_true,
    if_false, if_true]
  split
  · exact .inl ⟨rfl, rfl, .inl rfl⟩
  next hcalm =>
    have hcalm : (nodeHardCapacityReason metrics window policy).1 = "" := by
      by_contra h
      simp [h] at hcalm
    split
    next h => exact .inr ⟨rfl, not_not.mpr hcalm, h⟩
    · exact .inl ⟨rfl, rfl, .inr ⟨not_not.mpr hcalm, rfl⟩⟩

lemma evaluateNodeCapacity_entering (hfull : current.state ≠ .full) :
    let next := evaluateNodeCapacity now current metrics window policy
    next.state = .full →
      next.cooldownUntil = some (now + policy.cooldown) ∧ next.recoverySince = none := by
  intro next
  simp only [next, evaluateNodeCapacity, hfull, if_false]
  split_ifs <;> simp [capacityDecision]

end

variable {metrics policy} {average : List ℚ → ℚ} {s s' start : CapacityWatch} {a : CapacityAct}
  {acts : List CapacityAct}

def CapacityWatch.Timed (policy : NodeCapacityPolicy) (s : CapacityWatch) : Prop :=
  match s.fullSince with
  | none => s.cursor.state ≠ .full
  | some since => s.cursor.state = .full ∧ s.cursor.cooldownUntil = some (since + policy.cooldown) ∧
    (∀ t ∈ s.cursor.recoverySince, ∃ calm ∈ s.calmSince, calm ≤ t) ∧
    ∀ calm ∈ s.calmSince, ∃ t ∈ s.reportedAt, calm ≤ t

lemma CapacityWatch.Timed.hysteretic (h : s.Timed policy)
    (hstate : s'.cursor.state = s.cursor.state) : Hysteretic policy s s' := by
  intro since hsince hopen
  simp only [Timed, Option.mem_def.mp hsince] at h
  simp [hstate, h.1] at hopen

lemma CapacityWatch.Timed.heartbeat (h : s.Timed policy)
    (hvalid : s.fullSince.isNone || metrics.metricsValid)
    (hstep : s.heartbeat metrics policy average = some s') :
    s'.Timed policy ∧ Hysteretic policy s s' := by
  obtain ⟨hlater, hstep⟩ := Option.ite_none_left_eq_some.mp hstep
  simp only [Option.any_eq_true, decide_eq_true_eq, not_exists, not_and, not_lt] at hlater
  split at hstep
  · cases hstep
    exact ⟨h, h.hysteretic rfl⟩
  cases hstep
  cases hsince : s.fullSince with
  | none =>
    simp only [Timed, hsince] at h
    have henter := evaluateNodeCapacity_entering metrics.observedAt s.cursor metrics
      (metricWindow metrics policy average s.samples) policy h
    refine ⟨?_, by simp [Hysteretic, hsince]⟩
    generalize evaluateNodeCapacity _ s.cursor _ _ _ = next at henter
    cases hnext : next.state <;> simp_all [Timed]
  | some since =>
    simp only [Timed, hsince] at h
    obtain ⟨hfull, hcooldown, hrecovery, hreported⟩ := h
    have hkept := evaluateNodeCapacity_of_full metrics.observedAt s.cursor metrics
      (metricWindow metrics policy average s.samples) policy (by simpa [hsince] using hvalid) hfull
    generalize evaluateNodeCapacity _ s.cursor _ _ _ = next at hkept
    have hnow : s.calmSince.getD metrics.observedAt ≤ metrics.observedAt := by
      cases hcalm : s.calmSince with
      | none => exact le_rfl
      | some calm =>
        obtain ⟨t, ht, hle⟩ := hreported calm hcalm
        exact hle.trans (hlater t ht)
    have hcalm : s.calmSince.getD metrics.observedAt ≤
        s.cursor.recoverySince.getD metrics.observedAt := by
      cases hr : s.cursor.recoverySince with
      | none => exact hnow
      | some t =>
        obtain ⟨calm, hcalm, hle⟩ := hrecovery t hr
        simpa [Option.mem_def.mp hcalm] using hle
    rcases hkept with ⟨hstate, hcooldown', hrecovery'⟩ | ⟨hstate, hhard, hcooled, hrecovered⟩
    · refine ⟨?_, by simp [Hysteretic, hstate]⟩
      simp only [Timed, hstate, hcooldown', hcooldown]
      refine ⟨trivial, rfl, fun t ht => ?_, by simp [hnow]⟩
      rcases hrecovery' with hnone | ⟨hhard, hsome⟩
      · cases hnone.symm.trans ht
      · cases hsome.symm.trans ht
        exact ⟨_, by simp [hhard], hcalm⟩
    · refine ⟨by simp [Timed, hstate], fun t ht _ => ?_⟩
      cases hsince.symm.trans ht
      rw [hcooldown, Option.all_some, decide_eq_true_eq] at hcooled
      exact ⟨_, rfl, hcooled, _, by simp [hhard], (add_le_add_left hcalm _).trans hrecovered⟩

lemma CapacityWatch.Timed.step (h : s.Timed policy) (hknown : keepsKnown s a)
    (hstep : capacityStep policy average s a = some s') :
    s'.Timed policy ∧ Hysteretic policy s s' := by
  cases a with
  | heartbeat facts => exact h.heartbeat hknown hstep
  | cleanup before =>
    cases hstep
    exact ⟨h, h.hysteretic rfl⟩
  | markOffline now | promote now =>
    cases hstep
    have hnone : s.fullSince = none := Option.isNone_iff_eq_none.mp hknown
    simp [Timed, Hysteretic, hnone]

/-- **Capacity hysteresis**, for a node whose capacity does not become unknown while it is full:
after the node became full it is open or busy again only when the cooldown is over and no sample of
the recovery period was under hard pressure. -/
theorem capacity_hysteresis (hstart : start.cursor.state ≠ .full ∧ start.fullSince = none)
    (hmeets : Meets (capacityStep policy average) (keepsKnown · ·) start (acts ++ [a]))
    (hrun : run (capacityStep policy average) start acts = some s)
    (hstep : capacityStep policy average s a = some s') : Hysteretic policy s s' := by
  obtain ⟨hacts, ha⟩ := meets_append.mp hmeets
  have htimed : start.Timed policy := by simp [CapacityWatch.Timed, hstart]
  have hs : s.Timed policy :=
    run_invariant_of_meets (fun _ _ _ h hknown hstep => (h.step hknown hstep).1) htimed hacts hrun
  exact (hs.step (ha s hrun).1 hstep).2

def defaultCapacityPolicy : NodeCapacityPolicy :=
  ⟨50, 50, 50, 60, 120, 120, 180, 300, 10, 100, 100, by decide, by decide, by decide, by decide⟩

def exactAverage (figures : List ℚ) : ℚ := figures.sum / figures.length

def unreportedNode : CapacityWatch := ⟨⟨.unknown, "", none, none, 0, none⟩, none, [], none, none⟩

def idleHeartbeat (onlineUsers : ℤ) (observedAt : Time) (metricsValid : Bool) : CapacityAct :=
  .heartbeat ⟨10, 10, 10, metricsValid, 1000, 1000, 0, onlineUsers, 0, observedAt⟩

def crowdedOnce : List CapacityAct := [idleHeartbeat 100 0 true, idleHeartbeat 1 60 true]

theorem capacity_hysteresis_users :
    ∃ s s', run (capacityStep defaultCapacityPolicy exactAverage) unreportedNode
    crowdedOnce = some s ∧
      capacityStep defaultCapacityPolicy exactAverage s (idleHeartbeat 1 300 true) = some s' ∧
      s.fullSince = some 0 ∧ s'.cursor.state = .opened ∧ Hysteretic defaultCapacityPolicy s s' := by
  obtain ⟨s, hrun, s', hstep, hsince, hopen⟩ :
      ∃ s ∈ run (capacityStep defaultCapacityPolicy exactAverage) unreportedNode crowdedOnce,
        ∃ s' ∈ capacityStep defaultCapacityPolicy exactAverage s (idleHeartbeat 1 300 true),
          s.fullSince = some 0 ∧ s'.cursor.state = .opened := by decide +kernel
  exact ⟨s, s', hrun, hstep, hsince, hopen,
    capacity_hysteresis (by decide) (by decide +kernel) hrun hstep⟩

/-- **One heartbeat without metrics ends the cooldown.**  The node is open two seconds after it had
its limit of users. -/
theorem cooldown_lost_without_metrics :
    ∃ s s', run (capacityStep defaultCapacityPolicy exactAverage) unreportedNode
        [idleHeartbeat 100 0 true, idleHeartbeat 1 1 false] = some s ∧
      capacityStep defaultCapacityPolicy exactAverage s (idleHeartbeat 1 2 true) = some s' ∧
      s.fullSince = some 0 ∧ s'.cursor.state = .opened ∧ s'.reportedAt = some 2 ∧
      ¬ Hysteretic defaultCapacityPolicy s s' :=
  exists_states (by decide +kernel)

/-! ## Thresholds -/

variable {window}

lemma difference64_eq {a b : ℤ} (hlower : -2 ^ 63 ≤ a - b) (hupper : a - b < 2 ^ 63) :
    difference64 a b = a - b :=
  Int.bmod_eq_of_le (by omega) (by omega)

lemma belowTwiceReserve_eq {available reserve : ℤ} (hreserve : 0 < reserve)
    (havailable : available < 2 ^ 63) :
    belowTwiceReserve available reserve = decide (available < 2 * reserve) := by
  rw [belowTwiceReserve, Bool.eq_iff_iff]
  by_cases hless : available < reserve
  · simp only [hless, decide_true, Bool.true_or, decide_eq_true_eq, true_iff]
    omega
  · rw [difference64_eq (by omega) (by omega)]
    simp only [hless, decide_false, Bool.false_or, decide_eq_true_eq]
    omega

lemma atLeastFourFifths_eq {value limit : ℤ} (hpos : 0 < limit) (hlimit : limit < 2 ^ 63) :
    atLeastFourFifths value limit = decide (4 * limit ≤ 5 * value) := by
  rw [atLeastFourFifths, Int.tdiv_eq_ediv_of_nonneg hpos.le,
    difference64_eq (by omega) (by omega), Bool.eq_iff_iff]
  simp only [decide_eq_true_eq]
  omega

lemma busy_of_hard (hhard : (nodeHardCapacityReason metrics window policy).1 ≠ "") :
    nodeBusyCapacityReason metrics window policy ≠ "" := by
  have hlimits := policy.limits
  have hpercents := policy.percents.2
  have hfits := policy.fits
  simp only [List.mem_cons, List.not_mem_nil, or_false, forall_eq_or_imp, forall_eq]
    at hpercents hfits
  contrapose! hhard
  unfold nodeBusyCapacityReason belowTwiceReserve at hhard
  simp only [atLeastFourFifths_eq hlimits.2.1 hfits.2.1,
    atLeastFourFifths_eq hlimits.2.2 hfits.2.2] at hhard
  split_ifs at hhard
  case neg =>
    unfold nodeHardCapacityReason
    grind
  all_goals exact nomatch hhard

lemma evaluateNodeCapacity_pressure :
    let next := evaluateNodeCapacity now current metrics window policy
    let hard := nodeHardCapacityReason metrics window policy
    (∀ since ∈ next.pressureSince, metrics.metricsValid ∧ hard.1 ≠ "" ∧
      current.pressureSince.getD now = since) ∧
    (current.state ≠ .full → hard.2 = false → next.state = .full →
      ∃ since ∈ next.pressureSince, since + policy.sustain ≤ now) := by
  unfold evaluateNodeCapacity
  generalize nodeHardCapacityReason metrics window policy = hard
  cases metrics.metricsValid
  case false => exact ⟨nofun, nofun⟩
  case true =>
    dsimp only [Bool.not_true]
    split_ifs <;> simp_all [capacityDecision]

/-- The sample that an act reports shows hard pressure, and no act but a sample changes the row. -/
def underPressure (policy : NodeCapacityPolicy) (average : List ℚ → ℚ) (s : CapacityWatch) :
    CapacityAct → Prop
  | .heartbeat facts => s.reportedAt = some facts.observedAt ∨ facts.metricsValid ∧
    (nodeHardCapacityReason facts (metricWindow facts policy average s.samples) policy).1 ≠ ""
  | .cleanup _ => True
  | .markOffline _ | .promote _ => False

/-- The run has a sample at `since`, and is under pressure from that sample on. -/
def PressedSince (policy : NodeCapacityPolicy) (average : List ℚ → ℚ) (start : CapacityWatch)
    (acts : List CapacityAct)
    (since : Time) : Prop :=
  ∃ before facts during t, acts = before ++ .heartbeat facts :: during ∧ facts.observedAt = since ∧
    run (capacityStep policy average) start before = some t ∧
    Meets (capacityStep policy average) (underPressure policy average) t
    (.heartbeat facts :: during)

lemma PressedSince.append {since : Time} (h : PressedSince policy average start acts since)
    (hrun : run (capacityStep policy average) start acts = some s)
    (ha : underPressure policy average s a) :
    PressedSince policy average start (acts ++ [a]) since := by
  obtain ⟨before, facts, during, t, rfl, hfirst, ht, hmeets⟩ := h
  refine ⟨before, facts, during ++ [a], t, by simp, hfirst, ht, ?_⟩
  refine List.cons_append ▸ meets_append.mpr ⟨hmeets, fun u hu => ?_⟩
  cases (run_append_eq_some.mpr ⟨t, ht, hu⟩).symm.trans hrun
  exact ⟨ha, fun _ _ => trivial⟩

lemma pressedSince_of_run (hstart : start.cursor.pressureSince = none)
    (hrun : run (capacityStep policy average) start acts = some s) :
    ∀ since ∈ s.cursor.pressureSince, PressedSince policy average start acts since := by
  induction acts using List.reverseRecOn generalizing s with
  | nil =>
    cases hrun
    simp [hstart]
  | append_singleton acts a ih =>
    obtain ⟨u, hu, hstep⟩ := run_append_eq_some.mp hrun
    obtain ⟨s, hstep, ⟨⟩⟩ := run_cons_eq_some.mp hstep
    intro since hsince
    cases a with
    | markOffline now | promote now =>
      cases hstep
      cases hsince
    | cleanup before =>
      cases hstep
      exact (ih hu since hsince).append hu trivial
    | heartbeat facts =>
      obtain ⟨-, hstep⟩ := Option.ite_none_left_eq_some.mp hstep
      split at hstep
      next hsame =>
        cases hstep
        exact (ih hu since hsince).append hu (.inl hsame)
      · cases hstep
        obtain ⟨hvalid, hhard, rfl⟩ := (evaluateNodeCapacity_pressure ..).1 _ hsince
        cases hold : u.cursor.pressureSince with
        | none => exact ⟨acts, facts, [], u, rfl, rfl, hu, .inr ⟨hvalid, hhard⟩, fun _ _ => trivial⟩
        | some t => exact (ih hu t hold).append hu (.inr ⟨hvalid, hhard⟩)

/-- **Thresholds of the capacity.**  Hard pressure is busy pressure.  A node becomes full by
pressure that does not close it at once only when all samples of the sustain period were under hard
pressure. For every sample with valid metrics the comparisons of 64 bits are the exact ones. -/
theorem capacity_thresholds (policy : NodeCapacityPolicy) (average : List ℚ → ℚ) :
    (∀ metrics window, (nodeHardCapacityReason metrics window policy).1 ≠ "" →
      nodeBusyCapacityReason metrics window policy ≠ "") ∧
    (∀ start acts facts s s', start.cursor.pressureSince = none →
      run (capacityStep policy average) start acts = some s →
      s.heartbeat facts policy average = some s' → s.cursor.state ≠ .full →
      s'.cursor.state = .full →
      (nodeHardCapacityReason facts (metricWindow facts policy average s.samples) policy).2 =
        false →
      ∃ since, since + policy.sustain ≤ facts.observedAt ∧
        PressedSince policy average start (acts ++ [.heartbeat facts]) since) ∧
    ∀ metrics : NodeHeartbeatFacts, 0 ≤ metrics.diskAvailableBytes ∧ 0 < metrics.diskQuotaBytes ∧
      0 ≤ metrics.allocatedDiskBytes → (∀ n ∈ [metrics.diskAvailableBytes, metrics.diskQuotaBytes,
        metrics.allocatedDiskBytes], n < 2 ^ 63) →
      metrics.quotaLeft = metrics.diskQuotaBytes - metrics.allocatedDiskBytes ∧
      (∀ available ∈ [metrics.diskAvailableBytes, metrics.quotaLeft],
        belowTwiceReserve available policy.minDiskFreeBytes =
          decide (available < 2 * policy.minDiskFreeBytes)) ∧
      ∀ limit ∈ [policy.maxOnlineUsers, policy.maxTaskQueueDepth], ∀ value,
        atLeastFourFifths value limit = decide (4 * limit ≤ 5 * value) := by
  refine ⟨fun _ _ => busy_of_hard, ?_, ?_⟩
  · intro start acts facts s s' hstart hrun hstep hbefore hafter hreason
    have hrun' : run (capacityStep policy average) start (acts ++ [.heartbeat facts]) = some s' :=
      run_append_eq_some.mpr ⟨s, hrun, run_cons_eq_some.mpr ⟨s', hstep, rfl⟩⟩
    obtain ⟨-, hstep⟩ := Option.ite_none_left_eq_some.mp hstep
    split at hstep
    · cases hstep
      exact absurd hafter hbefore
    · cases hstep
      obtain ⟨since, hsince, hlasted⟩ := (evaluateNodeCapacity_pressure ..).2 hbefore hreason hafter
      exact ⟨since, hlasted, pressedSince_of_run hstart hrun' since hsince⟩
  · intro metrics hvalid hfits
    have hlimits := policy.limits
    have hpolicy := policy.fits
    simp only [List.forall_mem_cons, List.not_mem_nil, false_implies, implies_true, and_true] at *
    have hquota : metrics.quotaLeft = metrics.diskQuotaBytes - metrics.allocatedDiskBytes :=
      difference64_eq (by omega) (by omega)
    refine ⟨hquota, ⟨belowTwiceReserve_eq ?_ ?_, belowTwiceReserve_eq ?_ ?_⟩,
      fun _ => atLeastFourFifths_eq ?_ ?_, fun _ => atLeastFourFifths_eq ?_ ?_⟩ <;> omega

def busyHeartbeat (observedAt : Time) : NodeHeartbeatFacts :=
  ⟨70, 10, 10, true, 1000, 1000, 0, 1, 0, observedAt⟩

theorem capacity_thresholds_busy :
    ∃ since, since + 120 ≤ (120 : Time) ∧ PressedSince defaultCapacityPolicy exactAverage
    unreportedNode
      ([0, 60, 120].map fun t => .heartbeat (busyHeartbeat t)) since := by
  obtain ⟨s, hrun, s', hstep, hfacts⟩ :
      ∃ s ∈ run (capacityStep defaultCapacityPolicy exactAverage) unreportedNode
          ([0, 60].map fun t => .heartbeat (busyHeartbeat t)),
        ∃ s' ∈ s.heartbeat (busyHeartbeat 120) defaultCapacityPolicy exactAverage,
        s.cursor.state ≠ .full ∧
          s'.cursor.state = .full ∧ (nodeHardCapacityReason (busyHeartbeat 120)
            (metricWindow (busyHeartbeat 120) defaultCapacityPolicy exactAverage s.samples)
            defaultCapacityPolicy).2 = false := by decide +kernel
  exact (capacity_thresholds defaultCapacityPolicy exactAverage).2.1 unreportedNode _ _ s s' rfl
    hrun hstep
    hfacts.1 hfacts.2.1 hfacts.2.2

end StControl.Store
