import StControl.Agent.ControlMode
import StControl.Agent.OwnershipProtocol

/-!
# The report of the control mode and its checks

Every heartbeat carries a report of the control mode: the mode with the evidence for it, the users
that wait for synchronisation, and the takeovers that were confirmed while the controller was away.
`controlModeReport` copies it from the cached state of the agent, and the controller checks it
twice, in `normalizeNodeControlMode` and in `validNodeControlModeFact`, before it accepts the
heartbeat.  A refused heartbeat is a failure for the agent, whatever else it says.

This module embeds the report and the two checks with their error texts.  The two loops of the first
check and the one of the second are one function, `checkEntries`, with the validity of an entry and
the two identities that must not repeat as its parameters; `checkEntries_eq_ok` says when it passes.
The second check asks for less than the first: `validTakeoverFact_of_validTakeover`.

The stamps of pending users and takeovers and the instant of the check are in milliseconds, the
instants of the mode in seconds, as in `Agent/ControlMode.lean`.
-/

namespace StControl.Agent

open Store (ControlMode Time)

/-! ## What the checks ask of texts -/

/-- `strings.TrimSpace` leaves the text as it is. -/
def isTrimmed (value : String) : Bool :=
  !(value.toList.head?.any isSpaceRune) && !(value.toList.getLast?.any isSpaceRune)

/-- `strings.ContainsAny(value, "\r\n")`. -/
def containsLineBreak (value : String) : Bool :=
  value.toList.any fun c => c == '\r' || c == '\n'

def isHandleRune (c : Char) : Bool :=
  ('a' ≤ c && c ≤ 'z') || ('0' ≤ c && c ≤ '9') || c == '-'

def trimRunes (p : Char → Bool) (runes : List Char) : List Char :=
  ((runes.dropWhile p).reverse.dropWhile p).reverse

def collapseDashes (runes : List Char) : List Char :=
  runes.foldr (fun c rest => if c = '-' ∧ rest.head? = some '-' then rest else c :: rest) []

section

variable (env : Env)

def normalizeHandle (handle : String) : String :=
  if handle = "" then ""
  else
    let runes := trimRunes isSpaceRune (env.toLower handle).toList
    let runes := runes.map fun c => if isHandleRune c then c else '-'
    String.ofList (trimRunes (· == '-') (collapseDashes runes))

def isValidHandle (handle : String) : Bool :=
  3 ≤ handle.utf8ByteSize && handle.utf8ByteSize ≤ 32 && handle.toList.all isHandleRune

/-- The check of `normalizeNodeControlMode` on a handle. -/
def reportableHandle (handle : String) : Bool :=
  isValidHandle handle && normalizeHandle env handle == handle

/-- `validSHA256Text`: 32 bytes in lower-case hexadecimal. -/
def validSHA256Text (value : String) : Bool :=
  validOwnershipDigest value && env.toLower value == value

/-- `validControlModeHandle`; a control character is one below `0x20` or from `0x7f` to `0x9f`. -/
def validControlModeHandle (value : String) : Bool :=
  value != "" && value.utf8ByteSize ≤ 128 && env.toLower value == value && isTrimmed value &&
    value.toList.all fun c => !(c.toNat < 0x20 || (0x7f ≤ c.toNat && c.toNat < 0xa0))

/-! ## The report -/

structure IndependentSyncUser where
  (handle marker : String)
  changedAt : ℤ
  reason : String
  deriving DecidableEq

structure IndependentTakeover where
  (operationID handle parentClaimID claimID : String)
  (controllerGeneration activityEpoch takeoverSequence confirmedAt : ℤ)
  deriving DecidableEq

/-- `protocol.NodeControlModeReport`; an unset time is `none`. -/
structure NodeControlModeReport where
  mode : ControlMode
  (modeGeneration controllerGeneration : ℤ)
  reasonCode : String
  (consecutiveHeartbeatFails consecutiveHealthProbeFails consecutivePeerWitnessFails : ℤ)
  (outageStartedAt confirmedOutageStartedAt lastControllerSuccessAt independentSince : Option Time)
  (activeIndependentSessions pendingUserSyncs : ℤ)
  pendingUsers : List IndependentSyncUser
  confirmedTakeovers : List IndependentTakeover
  deriving DecidableEq

/-- What the agent keeps for its reports: the runtime state of the modes, the pending users as the
adapter listed them last, the takeover journal, and the clock. -/
structure ReportingAgent where
  runtime : ModeRuntime
  pendingUsers : List IndependentSyncUser
  takeovers : List OwnershipTakeoverOperation
  clock : ℤ
  deriving DecidableEq

def OwnershipTakeoverOperation.report (operation : OwnershipTakeoverOperation) :
    IndependentTakeover where
  operationID := operation.operationID
  handle := operation.claim.handle
  parentClaimID := operation.parentClaimID
  claimID := operation.claim.claimID
  controllerGeneration := operation.claim.controllerGeneration
  activityEpoch := operation.claim.activityEpoch
  takeoverSequence := operation.claim.takeoverSequence
  confirmedAt := operation.updatedAt

def ReportingAgent.controlModeReport (s : ReportingAgent) : NodeControlModeReport where
  mode := s.runtime.control.mode
  modeGeneration := s.runtime.control.modeGeneration
  controllerGeneration := s.runtime.highestGeneration
  reasonCode := s.runtime.control.reasonCode
  consecutiveHeartbeatFails := s.runtime.control.consecutiveHeartbeatFails
  consecutiveHealthProbeFails := s.runtime.control.consecutiveHealthProbeFails
  consecutivePeerWitnessFails := s.runtime.control.consecutivePeerWitnessFails
  outageStartedAt := s.runtime.control.outageStartedAt
  confirmedOutageStartedAt := s.runtime.control.confirmedOutageStartedAt
  lastControllerSuccessAt := s.runtime.control.lastControllerSuccessAt
  independentSince := s.runtime.control.independentSince
  activeIndependentSessions := s.runtime.control.activeIndependentSessions
  pendingUserSyncs := s.runtime.control.pendingUserSyncs
  pendingUsers := s.pendingUsers
  confirmedTakeovers :=
    (s.takeovers.filter fun operation => operation.succeeded && operation.audited).map
      OwnershipTakeoverOperation.report

/-! ## The checks of the controller -/

def acceptedSkew : ℤ := 60 * 1000

/-- `store.NodeControlModeFact`: the report and the instant at which it was observed.  The stamps
of its users and takeovers are those of the report as `time.Time`. -/
structure NodeControlModeFact where
  report : NodeControlModeReport
  observedAt : ℤ
  deriving DecidableEq

/-- The loops over pending users and over takeovers: every entry is valid, and no entry repeats one
of two identities of an earlier one. -/
def checkEntries {α : Type} (valid : α → Bool) (first second : α → String)
    (invalid duplicateFirst duplicateSecond : String) :
    List String → List String → List α → Except String Unit
  | _, _, [] => .ok ()
  | seenFirst, seenSecond, entry :: rest =>
    if valid entry = false then .error invalid
    else if first entry ∈ seenFirst then .error duplicateFirst
    else if second entry ∈ seenSecond then .error duplicateSecond
    else
      checkEntries valid first second invalid duplicateFirst duplicateSecond
        (first entry :: seenFirst) (second entry :: seenSecond) rest

/-- The check of `normalizeNodeControlMode` on a pending user. -/
def validPendingUser (now : ℤ) (pending : IndependentSyncUser) : Bool :=
  reportableHandle env pending.handle && validUUID pending.marker && 0 < pending.changedAt &&
    pending.changedAt ≤ now + acceptedSkew && pending.reason != "" &&
    pending.reason.utf8ByteSize ≤ 128 && isTrimmed pending.reason &&
    !containsLineBreak pending.reason

/-- The check of `normalizeNodeControlMode` on a takeover, in a report of a generation. -/
def validTakeover (generation now : ℤ) (takeover : IndependentTakeover) : Bool :=
  validUUID takeover.operationID && reportableHandle env takeover.handle &&
    validSHA256Text env takeover.parentClaimID && validSHA256Text env takeover.claimID &&
    takeover.parentClaimID != takeover.claimID && 0 < takeover.controllerGeneration &&
    takeover.controllerGeneration ≤ generation && 0 < takeover.activityEpoch &&
    0 < takeover.takeoverSequence && 0 < takeover.confirmedAt &&
    takeover.confirmedAt ≤ now + acceptedSkew

end

section

variable (report : NodeControlModeReport)

/-- The mode is `independent` and part of the evidence for it is missing. -/
def NodeControlModeReport.lacksEvidence : Bool :=
  report.mode = .independent &&
    (report.independentSince.isNone || report.confirmedOutageStartedAt.isNone ||
      report.consecutivePeerWitnessFails ≤ 0)

/-- The generations, the counters and the reason that both checks ask for.  A mode that is none of
the four cannot be written down. -/
def NodeControlModeReport.wellFormed : Bool :=
  0 < report.modeGeneration && 0 < report.controllerGeneration &&
    0 ≤ report.consecutiveHeartbeatFails && 0 ≤ report.consecutiveHealthProbeFails &&
    0 ≤ report.consecutivePeerWitnessFails && 0 ≤ report.activeIndependentSessions &&
    0 ≤ report.pendingUserSyncs && report.reasonCode.utf8ByteSize ≤ 128 &&
    !containsLineBreak report.reasonCode

def NodeControlModeReport.countsPending : Bool :=
  (report.pendingUsers.length : ℤ) = report.pendingUserSyncs && report.pendingUsers.length ≤ 500

end

def normalizeNodeControlMode (env : Env) (report : NodeControlModeReport) (now : ℤ) :
    Except String NodeControlModeFact := do
  if report.wellFormed = false then throw "invalid node control mode evidence"
  if report.lacksEvidence then throw "independent mode is missing activation time"
  if report.countsPending = false then
    throw "pending independent synchronization count mismatch"
  checkEntries (validPendingUser env now) (·.handle) (·.marker)
    "invalid pending independent synchronization fact"
    "duplicate pending independent synchronization handle"
    "duplicate pending independent synchronization marker" [] [] report.pendingUsers
  if 1000 < report.confirmedTakeovers.length then
    throw "too many confirmed independent takeovers"
  checkEntries (validTakeover env report.controllerGeneration now) (·.operationID) (·.claimID)
    "invalid confirmed independent takeover"
    "duplicate confirmed independent takeover operation"
    "duplicate confirmed independent takeover claim" [] [] report.confirmedTakeovers
  return ⟨report, now⟩

/-- The zero value of `time.Time`, in milliseconds of the Unix epoch. -/
def zeroTimeMillis : ℤ := -62135596800000

/-- The check of `validNodeControlModeFact` on a takeover. -/
def validTakeoverFact (env : Env) (generation observedAt : ℤ) (takeover : IndependentTakeover) :
    Bool :=
  validUUID takeover.operationID && validControlModeHandle env takeover.handle &&
    validSHA256Text env takeover.parentClaimID && validSHA256Text env takeover.claimID &&
    takeover.parentClaimID != takeover.claimID && 0 < takeover.controllerGeneration &&
    takeover.controllerGeneration ≤ generation && 0 < takeover.activityEpoch &&
    0 < takeover.takeoverSequence && takeover.confirmedAt != zeroTimeMillis &&
    takeover.confirmedAt ≤ observedAt + acceptedSkew

def NodeControlModeReport.timestamps (report : NodeControlModeReport) : List (Option Time) :=
  [report.outageStartedAt, report.confirmedOutageStartedAt, report.lastControllerSuccessAt,
    report.independentSince]

def validNodeControlModeFact (env : Env) (fact : NodeControlModeFact) : Bool :=
  let report := fact.report
  report.wellFormed && report.countsPending && report.confirmedTakeovers.length ≤ 1000 &&
    (checkEntries (validTakeoverFact env report.controllerGeneration fact.observedAt)
      (·.operationID) (·.claimID) "" "" "" [] [] report.confirmedTakeovers).isOk &&
    (report.timestamps.all fun timestamp =>
      timestamp.all fun t => 1000 * t ≤ fact.observedAt + acceptedSkew) &&
    !report.lacksEvidence

def acceptsReport (env : Env) (report : NodeControlModeReport) (now : ℤ) : Bool :=
  match normalizeNodeControlMode env report now with
  | .error _ => false
  | .ok fact => validNodeControlModeFact env fact

/-- What the proofs use of the digest and of `strings.ToLower`: a digest is 32 bytes in lower-case
hexadecimal, and lower-casing keeps a valid handle. -/
structure Env.Lawful (env : Env) : Prop where
  digest_hex : ∀ text, validSHA256Text env (env.digest text)
  toLower_handle : ∀ handle, isValidHandle handle → env.toLower handle = handle

/-! ## The checks on entries -/

lemma checkEntries_eq_ok {α : Type} {valid : α → Bool} {first second : α → String}
    {invalid duplicateFirst duplicateSecond : String} {entries : List α}
    {seenFirst seenSecond : List String} (hvalid : ∀ entry ∈ entries, valid entry)
    (hfirst : (entries.map first).Nodup) (hsecond : (entries.map second).Nodup)
    (hnewFirst : ∀ entry ∈ entries, first entry ∉ seenFirst)
    (hnewSecond : ∀ entry ∈ entries, second entry ∉ seenSecond) :
    checkEntries valid first second invalid duplicateFirst duplicateSecond seenFirst seenSecond
      entries = .ok () := by
  induction entries generalizing seenFirst seenSecond with
  | nil => rfl
  | cons entry rest ih =>
    rw [List.map_cons, List.nodup_cons] at hfirst hsecond
    have hentry : valid entry := hvalid entry (List.mem_cons_self ..)
    have hone : first entry ∉ seenFirst := hnewFirst entry (List.mem_cons_self ..)
    have htwo : second entry ∉ seenSecond := hnewSecond entry (List.mem_cons_self ..)
    -- The identities of the first entry are seen from here on, and the rest does not repeat them.
    have hrest : checkEntries valid first second invalid duplicateFirst duplicateSecond
        (first entry :: seenFirst) (second entry :: seenSecond) rest = .ok () := by
      refine ih (fun e he => hvalid e (List.mem_cons_of_mem _ he)) hfirst.2 hsecond.2 ?_ ?_
      · intro e he hseen
        rcases List.mem_cons.mp hseen with heq | hold
        · exact hfirst.1 (heq ▸ List.mem_map_of_mem he)
        · exact hnewFirst e (List.mem_cons_of_mem _ he) hold
      · intro e he hseen
        rcases List.mem_cons.mp hseen with heq | hold
        · exact hsecond.1 (heq ▸ List.mem_map_of_mem he)
        · exact hnewSecond e (List.mem_cons_of_mem _ he) hold
    simp [checkEntries, hentry, hone, htwo, hrest]

lemma reason_of_safeInventoryString {value : String} {limit : ℕ}
    (h : safeInventoryString value limit) :
    (value != "") ∧ value.utf8ByteSize ≤ limit ∧ isTrimmed value ∧
      containsLineBreak value = false := by
  simp only [safeInventoryString, Bool.and_eq_true, Bool.not_eq_true',
    decide_eq_true_eq] at h
  obtain ⟨⟨⟨⟨hne, hsize⟩, hhead⟩, hlast⟩, hrunes⟩ := h
  refine ⟨?_, hsize, ?_, ?_⟩
  · rw [bne_iff_ne]
    rintro rfl
    exact absurd hne (by decide)
  · rw [isTrimmed, hhead, hlast]
    rfl
  · rw [containsLineBreak, List.any_eq_false]
    intro c hc hbreak
    have hsafe := List.all_eq_true.mp hrunes c hc
    rw [Bool.or_eq_true, beq_iff_eq, beq_iff_eq] at hbreak
    rcases hbreak with rfl | rfl <;> exact absurd hsafe (by decide)

lemma toNat_of_isHandleRune {c : Char} (h : isHandleRune c) : 0x2d ≤ c.toNat ∧ c.toNat ≤ 0x7a := by
  simp only [isHandleRune, Bool.and_eq_true, Bool.or_eq_true, decide_eq_true_eq,
    beq_iff_eq] at h
  rcases h with (⟨hlow, hhigh⟩ | ⟨hlow, hhigh⟩) | rfl
  · exact ⟨le_trans (by decide) hlow, hhigh⟩
  · exact ⟨le_trans (by decide) hlow, le_trans hhigh (by decide)⟩
  · decide

lemma validControlModeHandle_of_isValidHandle {env : Env} (henv : env.Lawful) {handle : String}
    (h : isValidHandle handle) : validControlModeHandle env handle := by
  have hlower : env.toLower handle = handle := henv.toLower_handle handle h
  simp only [isValidHandle, Bool.and_eq_true, decide_eq_true_eq,
    List.all_eq_true] at h
  obtain ⟨⟨hthree, hsize⟩, hrunes⟩ := h
  have hne : handle ≠ "" := by
    rintro rfl
    exact absurd hthree (by decide)
  have hspace : ∀ c ∈ handle.toList, isSpaceRune c = false := by
    intro c hc
    have hrange := toNat_of_isHandleRune (hrunes c hc)
    simp only [isSpaceRune, Bool.or_eq_false_iff, Bool.and_eq_false_iff, decide_eq_false_iff_not,
      beq_eq_false_iff_ne]
    omega
  have htrimmed : isTrimmed handle := by
    have hhead : handle.toList.head?.any isSpaceRune = false := by
      cases hc : handle.toList.head? with
      | none => rfl
      | some c => exact hspace c (List.mem_of_head? hc)
    have hlast : handle.toList.getLast?.any isSpaceRune = false := by
      cases hc : handle.toList.getLast? with
      | none => rfl
      | some c => exact hspace c (List.mem_of_getLast? hc)
    rw [isTrimmed, hhead, hlast]
    rfl
  have hcontrol : handle.toList.all
      (fun c => !(c.toNat < 0x20 || (0x7f ≤ c.toNat && c.toNat < 0xa0))) := by
    rw [List.all_eq_true]
    intro c hc
    have hrange := toNat_of_isHandleRune (hrunes c hc)
    simp only [Bool.not_eq_true', Bool.or_eq_false_iff, Bool.and_eq_false_iff,
      decide_eq_false_iff_not]
    omega
  have hlong : handle.utf8ByteSize ≤ 128 := by omega
  rw [validControlModeHandle, hcontrol]
  simp [hne, hlong, hlower, htrimmed]

lemma validTakeoverFact_of_validTakeover {env : Env} (henv : env.Lawful) {generation now : ℤ}
    {takeover : IndependentTakeover} (h : validTakeover env generation now takeover) :
    validTakeoverFact env generation now takeover := by
  simp only [validTakeover, reportableHandle, Bool.and_eq_true,
    decide_eq_true_eq] at h
  obtain ⟨⟨⟨⟨⟨⟨⟨⟨⟨⟨hoperation, hhandle, -⟩, hparent⟩, hclaim⟩, hne⟩, hpositive⟩, hgeneration⟩,
    hepoch⟩, hsequence⟩, hconfirmed⟩, hskew⟩ := h
  have hhandle' := validControlModeHandle_of_isValidHandle henv hhandle
  have hset : (takeover.confirmedAt != zeroTimeMillis) := by
    rw [bne_iff_ne, zeroTimeMillis]
    omega
  simp only [validTakeoverFact, hoperation, hhandle', hparent, hclaim, hne, hset, Bool.and_eq_true,
    decide_eq_true_eq,
    true_and, and_true]
  exact ⟨⟨⟨⟨hpositive, hgeneration⟩, hepoch⟩, hsequence⟩, hskew⟩

end StControl.Agent
