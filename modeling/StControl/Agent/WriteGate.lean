import Mathlib.Tactic
import StControl.Foundations.Run

/-!
# The write gate of a snapshot

`RunSnapshot` asks the adapter to hold back the writes of the user, copies the tree and sends it.
The adapter holds them back until a time that it confirms.  `maintainSnapshotUserGate` renews the
gate beside the copy, and cancels the snapshot when the confirmed time is over.

What is modelled is the two of them with a clock.  Time passes in any amounts between two steps, so
the goroutines, the copy and the calls of the adapter are as slow as they like; the adapter may
answer a renewal with any expiry, or not at all.  `lapsed` is a history variable: some moment of the
copy was not covered by the expiry confirmed last.

A lease that is stopped while it waits returns without an error and without looking at the clock,
and it waits for 250 milliseconds at least, however little is left.  The copy may so end after the
expiry, and is sent (`lapsed_copy_sent`).  If the copy ends before the expiry that is confirmed
then, all of it was covered (`sent_copies_gated`): no renewal revives a gate that has expired,
because a renewal is given no more time than the gate has left.
-/

namespace StControl.Agent

open Run

/-! ## The two goroutines -/

def millisecond : ℤ := 1000000

/-- `validSnapshotGateExpiry`, at a time given in milliseconds. -/
def validSnapshotGateExpiry (expiresAtMillis now : ℤ) : Bool :=
  now + 2000 * millisecond < expiresAtMillis * millisecond &&
    expiresAtMillis * millisecond < now + 360000 * millisecond

/-- Where `maintainSnapshotUserGate` is. -/
inductive GatePhase
  | checking
  | waiting (timer : ℤ)
  | renewing (deadline : ℤ)
  | retrying (timer : ℤ)
  | returned (error : Bool)
  deriving DecidableEq

/-- Where `RunSnapshot` is, once the user is quiesced. -/
inductive SnapshotPhase
  | draining | copying | archiving | stopping | releasing | sent | failed
  deriving DecidableEq

/-- One `RunSnapshot` with its gate.  `cancelled` is the end of `snapshotCtx`, and `stopped` that of
`gateLeaseCtx`. -/
structure GatedSnapshot where
  (now expiresAt backoff : ℤ)
  gate : GatePhase
  main : SnapshotPhase
  (cancelled stopped lapsed : Bool)
  deriving DecidableEq

/-- `quiesceSnapshotUser`, and the start of the lease. -/
def quiesceSnapshotUser (now expiresAtMillis : ℤ) : Option GatedSnapshot :=
  if validSnapshotGateExpiry expiresAtMillis now then
    some { now, expiresAt := expiresAtMillis * millisecond, backoff := 250 * millisecond
           gate := .checking, main := .draining, cancelled := false, stopped := false
           lapsed := false }
  else none

namespace GatedSnapshot

section

variable (s : GatedSnapshot)

/-- `time.Until(expiresAt)`. -/
def remaining : ℤ := s.expiresAt - s.now

/-- `ctx.Err() != nil` in the lease. -/
def done : Bool := s.cancelled || s.stopped

def expire : GatedSnapshot :=
  { s with gate := .returned true, cancelled := true }

/-- The head of the loop: half of what is left, but 10 seconds at most and 250 milliseconds at
least. -/
def check : GatedSnapshot :=
  if s.remaining ≤ 0 then s.expire
  else
    let wait := max (min (s.remaining / 2) (10000 * millisecond)) (250 * millisecond)
    { s with gate := .waiting (s.now + wait) }

def renew : GatedSnapshot :=
  if s.remaining ≤ 0 then s.expire
  else { s with gate := .renewing (s.now + min s.remaining (5000 * millisecond)) }

/-- The renewal has returned; `ok` says that it has an answer without an error. -/
def renewed (ok : Bool) (expiresAtMillis : ℤ) : GatedSnapshot :=
  if ok && validSnapshotGateExpiry expiresAtMillis s.now &&
      s.expiresAt < expiresAtMillis * millisecond then
    { s with
      expiresAt := expiresAtMillis * millisecond, backoff := 250 * millisecond, gate := .checking }
  else if s.done then { s with gate := .returned false }
  else if s.remaining ≤ 0 then s.expire
  else
    let retryAfter := if s.remaining ≤ s.backoff then s.remaining / 2 else s.backoff
    if retryAfter ≤ 0 then s.expire else { s with gate := .retrying (s.now + retryAfter) }

end

end GatedSnapshot

/-- A step of the lease, of `RunSnapshot` or of the clock. -/
inductive GateAct
  | tick (duration : ℕ)
  | check | wake
  | answer (ok : Bool) (expiresAtMillis : ℤ)
  | retry
  /-- The lease, at one of its timers, sees that its context is done. -/
  | notice
  /-- The job is cancelled, or the command that runs it. -/
  | cancel | startCopy | endCopy
  /-- The archive is there, and the lease is stopped. -/
  | stopLease | joinLease | send | fail

def gateStep (s : GatedSnapshot) : GateAct → Option GatedSnapshot
  | .tick duration =>
    some { s with
      now := s.now + duration
      lapsed := s.lapsed || (s.main = .copying && s.expiresAt ≤ s.now + duration) }
  | .check => if s.gate = .checking then some s.check else none
  | .wake =>
    match s.gate with
    | .waiting timer => if timer ≤ s.now then some s.renew else none
    | _ => none
  | .answer ok expiresAtMillis =>
    match s.gate with
    -- a call that is out of time has failed
    | .renewing deadline => some (s.renewed (ok && s.now < deadline) expiresAtMillis)
    | _ => none
  | .retry =>
    match s.gate with
    | .retrying timer =>
      if timer ≤ s.now then
        some { s with
          gate := .checking
          backoff := if s.backoff < 2000 * millisecond then 2 * s.backoff else s.backoff }
      else none
    | _ => none
  | .notice =>
    match s.gate with
    | .waiting _ | .retrying _ => if s.done then some { s with gate := .returned false } else none
    | _ => none
  | .cancel => some { s with cancelled := true }
  | .startCopy =>
    if s.main = .draining then
      some { s with main := .copying, lapsed := s.lapsed || s.expiresAt ≤ s.now }
    else none
  | .endCopy => if s.main = .copying then some { s with main := .archiving } else none
  | .stopLease =>
    if s.main = .archiving then some { s with main := .stopping, stopped := true } else none
  | .joinLease =>
    match s.main, s.gate with
    | .stopping, .returned error => some { s with main := if error then .failed else .releasing }
    | _, _ => none
  | .send => if s.main = .releasing then some { s with main := .sent } else none
  | .fail => if s.main = .sent then none else some { s with main := .failed }

def copiedInTime (s : GatedSnapshot) : GateAct → Bool
  | .endCopy => s.now < s.expiresAt
  | _ => true

/-! ## Covered copies -/

/-- A renewal is out of time when the gate expires; so once the gate has lapsed during the copy, it
stays expired. -/
structure GatedSnapshot.Covered (s : GatedSnapshot) : Prop where
  deadline : ∀ deadline, s.gate = .renewing deadline → deadline ≤ s.expiresAt
  expired : s.lapsed → s.main = .failed ∨ s.main = .copying ∧ s.expiresAt ≤ s.now

variable {s s' : GatedSnapshot} {act : GateAct}

namespace GatedSnapshot.Covered

section

variable (h : s.Covered)
include h

lemma expire : s.expire.Covered :=
  ⟨fun _ hgate => (nomatch hgate), h.expired⟩

lemma check : s.check.Covered := by
  unfold GatedSnapshot.check
  split
  · exact h.expire
  · exact ⟨fun _ hgate => (nomatch hgate), h.expired⟩

lemma renew : s.renew.Covered := by
  unfold GatedSnapshot.renew GatedSnapshot.remaining
  split
  · exact h.expire
  · refine ⟨?_, h.expired⟩
    rintro _ ⟨⟩
    show s.now + min (s.expiresAt - s.now) _ ≤ s.expiresAt
    omega

lemma renewed {ok : Bool} {expiresAtMillis : ℤ} (hopen : ok → s.now < s.expiresAt) :
    (s.renewed ok expiresAtMillis).Covered := by
  unfold GatedSnapshot.renewed
  split
  next haccepted =>
    simp only [Bool.and_eq_true, decide_eq_true_eq] at haccepted
    have hahead := hopen haccepted.1.1
    refine ⟨fun _ hgate => (nomatch hgate), fun hlapsed => (h.expired hlapsed).imp_right
      fun hexpired => ?_⟩
    omega
  next =>
    dsimp only
    repeat' split
    all_goals first | exact h.expire | exact ⟨fun _ hgate => (nomatch hgate), h.expired⟩

/-- **A step keeps the cover**, if it ends the copy only in time. -/
lemma step (hcond : copiedInTime s act) (hstep : gateStep s act = some s') : s'.Covered := by
  cases act with
  | tick duration =>
    cases hstep
    refine ⟨h.deadline, fun hlapsed => ?_⟩
    simp only [Bool.and_eq_true, Bool.or_eq_true, decide_eq_true_eq] at hlapsed
    rcases hlapsed with hbefore | hnow
    · refine (h.expired hbefore).imp_right fun hexpired => ⟨hexpired.1, ?_⟩
      show s.expiresAt ≤ s.now + duration
      omega
    · exact .inr hnow
  | check =>
    obtain ⟨-, rfl⟩ : s.gate = .checking ∧ s.check = s' := by simpa [gateStep] using hstep
    exact h.check
  | wake =>
    simp only [gateStep] at hstep
    split at hstep
    · obtain ⟨-, rfl⟩ := by simpa using hstep
      exact h.renew
    · cases hstep
  | answer ok expiresAtMillis =>
    simp only [gateStep] at hstep
    split at hstep
    next deadline hgate =>
      cases hstep
      refine h.renewed fun hok => ?_
      simp only [Bool.and_eq_true, decide_eq_true_eq] at hok
      have hle := h.deadline deadline hgate
      omega
    next => cases hstep
  | endCopy =>
    obtain ⟨hcopying, rfl⟩ : s.main = .copying ∧ { s with main := .archiving } = s' := by
      simpa [gateStep] using hstep
    refine ⟨h.deadline, fun hlapsed => ?_⟩
    have hahead : s.now < s.expiresAt := of_decide_eq_true hcond
    rcases h.expired hlapsed with hfailed | ⟨-, hexpired⟩
    · simp [hcopying] at hfailed
    · omega
  | startCopy =>
    obtain ⟨hdraining, rfl⟩ := by simpa [gateStep] using hstep
    refine ⟨h.deadline, fun hlapsed => ?_⟩
    simp only [Bool.or_eq_true, decide_eq_true_eq] at hlapsed
    refine .inr ⟨rfl, hlapsed.resolve_left fun hbefore => ?_⟩
    have hmain := h.expired hbefore
    simp [hdraining] at hmain
  | _ =>
    have hdeadline := h.deadline
    have hexpired := h.expired
    refine ⟨?_, ?_⟩ <;> grind [gateStep]

end

end GatedSnapshot.Covered

/-- **Only covered copies are sent**, in every run in which the copy ends in time. -/
theorem sent_copies_gated {now expiresAtMillis : ℤ} {start : GatedSnapshot} {acts : List GateAct}
    (hquiesced : quiesceSnapshotUser now expiresAtMillis = some start)
    (hmeets : Meets gateStep (fun s a => copiedInTime s a = true) start acts)
    (hrun : run gateStep start acts = some s) (hsent : s.main = .sent) : s.lapsed = false := by
  have hstart : start.Covered := by
    obtain ⟨-, rfl⟩ := by simpa [quiesceSnapshotUser] using hquiesced
    exact ⟨fun _ hgate => (nomatch hgate), nofun⟩
  have hcovered : s.Covered := run_invariant_of_meets (P := GatedSnapshot.Covered)
    (fun _ _ _ h hcond hstep => h.step hcond hstep) hstart hmeets hrun
  have hmain := hcovered.expired
  rw [hsent] at hmain
  simpa using hmain

def shortCopy : List GateAct :=
  [.check, .startCopy, .tick 5000000000, .endCopy, .stopLease, .notice, .joinLease, .send]

theorem sent_copies_gated_short : ∃ start s, quiesceSnapshotUser 0 30000 = some start ∧
    run gateStep start shortCopy = some s ∧ s.main = .sent ∧ s.lapsed = false := by
  have hmeets : Meets gateStep (fun s a => copiedInTime s a)
      { now := 0, expiresAt := 30000 * millisecond, backoff := 250 * millisecond, gate := .checking
        main := .draining, cancelled := false, stopped := false, lapsed := false }
      shortCopy := by decide +kernel
  have hquiesced : quiesceSnapshotUser 0 30000 = some _ := rfl
  exact ⟨_, _, hquiesced, rfl, rfl, sent_copies_gated hquiesced hmeets rfl rfl⟩

/-- The gate is confirmed for 2.1 seconds, and two renewals fail.  With 175 milliseconds left the
lease waits for 250; the copy ends after 2.15 seconds, and the lease is stopped while it waits. -/
def renewalsFail : List GateAct :=
  [.startCopy, .check, .tick 1050000000, .wake, .tick 50000000, .answer false 0,
    .tick 250000000, .retry, .check, .tick 375000000, .wake, .tick 25000000, .answer false 0,
    .tick 175000000, .retry, .check, .tick 225000000, .endCopy,
    .stopLease, .notice, .joinLease, .send]

/-- **A copy is sent whose gate had expired**, although every timer fires in time. -/
theorem lapsed_copy_sent : ∃ start s, quiesceSnapshotUser 0 2100 = some start ∧
    run gateStep start renewalsFail = some s ∧ s.main = .sent ∧ s.lapsed = true ∧
    s.expiresAt = 2100 * millisecond ∧ s.now = 2150 * millisecond :=
  ⟨_, _, rfl, rfl, rfl, rfl, rfl, rfl⟩

end StControl.Agent
