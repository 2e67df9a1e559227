import StControl.Agent.OwnershipSafety

/-!
# Ownership claims and the disk

The protocol modules take every save of the runtime state for granted.  Here one agent is modelled
with what it has in memory and what it has on disk, and each save may fail.  The peers are whatever
answers: the claims that a query collects and the nodes that accept a broadcast are inputs of the
steps.

`applyActivityOwnershipClaim` changes the memory first and saves afterwards, and it does not take
the change back when the save fails.  The next time the same claim arrives it is already held and is
accepted without a save; and `queryOwnershipQuorum` ignores the error altogether
(`unsaved_claims_acknowledged`).  If every save of a newly stored claim succeeds, what is
acknowledged is on disk (`acknowledged_claims_durable`).
-/

namespace StControl.Agent

open Run NodeState List
open Option hiding or_assoc

variable {operation : OwnershipTakeoverOperation}

/-! ## One agent -/

/-- How far `performUserConfirmedTakeover` has come. -/
inductive TakeoverPhase
  | querying | confirmed
  | parentRead (parent : ActivityOwnershipClaim)
  | applied (claim : ActivityOwnershipClaim)
  | journaled (operation : OwnershipTakeoverOperation)
  | broadcasting (operation : OwnershipTakeoverOperation)
  | acknowledged (operation : OwnershipTakeoverOperation)
  | succeeded (operation : OwnershipTakeoverOperation)
  deriving DecidableEq

/-- The runtime state in memory, the one in `runtime-state.json`, and the takeover that holds
`ownershipTakeoverMu`. -/
structure DurableAgent where
  (memory disk : NodeState)
  takeover : Option (OwnershipTakeoverRequest × TakeoverPhase)

structure OwnershipConfig where
  nodeID : NodeID
  peers : ℕ

/-- `(len(peers)+1)/2 + 1`. -/
def OwnershipConfig.required (config : OwnershipConfig) : ℕ := (config.peers + 1) / 2 + 1

/-- What a quorum query has collected: the map of claims in its iteration order, the local one
included, and the availability of the nodes. -/
structure OwnershipAnswers where
  claims : List (NodeID × ActivityOwnershipClaim)
  availability : List (NodeID × Bool)

/-- The branches of `applyActivityOwnershipClaim` that write the claim and save the state. -/
def NodeState.storesClaim (env : Env) (st : NodeState) (claim : ActivityOwnershipClaim)
    (requireParent : Bool) : Bool :=
  validateActivityOwnershipClaim env claim &&
    match st.activityOwnership claim.handle with
    | some current => current.claimID != claim.claimID &&
        !(requireParent && current.claimID != claim.parentClaimID) &&
        compareActivityOwnership claim current = .newer
    | none => !requireParent

lemma NodeState.applyActivityOwnershipClaim_eq (env : Env) (st : NodeState)
    (claim : ActivityOwnershipClaim) (requireParent : Bool) :
    st.applyActivityOwnershipClaim env claim requireParent =
      if st.storesClaim env claim requireParent then (st.store claim, true)
      else (st, validateActivityOwnershipClaim env claim &&
        (st.activityOwnership claim.handle).any fun current => current.claimID =
        claim.claimID) := by
  unfold applyActivityOwnershipClaim storesClaim
  cases hvalid : validateActivityOwnershipClaim env claim with
  | false => rfl
  | true =>
    cases hcurrent : st.activityOwnership claim.handle with
    | none => cases requireParent <;> rfl
    | some current =>
      by_cases hid : current.claimID = claim.claimID
      · simp [hid]
      by_cases hparent : (requireParent && current.claimID != claim.parentClaimID)
      · simp [hid, hparent]
      · by_cases hnewer : compareActivityOwnership claim current = .newer
        · simp [hid, hparent, hnewer]
        · simp [hid, hparent, hnewer]

/-- The results of `applyActivityOwnershipClaim`. -/
structure Applied where
  agent : DurableAgent
  (accepted error : Bool)

namespace DurableAgent

/-- `saveRuntimeStateLocked` replaces the file or fails. -/
def save (s : DurableAgent) (saved : Bool) : DurableAgent :=
  if saved then { s with disk := s.memory } else s

/-- `applyActivityOwnershipClaim`; the memory keeps the claim also when the save fails. -/
def apply (env : Env) (s : DurableAgent) (claim : ActivityOwnershipClaim)
    (requireParent saved : Bool) : Applied :=
  let result := s.memory.applyActivityOwnershipClaim env claim requireParent
  let stores := s.memory.storesClaim env claim requireParent
  { agent := if stores then { s with memory := result.1 }.save saved else s, accepted := result.2
    error := !validateActivityOwnershipClaim env claim || (stores && !saved) }

def endTakeover (s : DurableAgent) : DurableAgent := { s with takeover := none }

def moveTo (s : DurableAgent) (request : OwnershipTakeoverRequest) (phase : TakeoverPhase) :
    DurableAgent := { s with takeover := some (request, phase) }

end DurableAgent

def OwnershipAnswers.maximal (answers : OwnershipAnswers) : Option ActivityOwnershipClaim :=
  match maximalOwnership (answers.claims.map (·.2)) with
  | some (maximal, false) => some maximal
  | _ => none

/-- The end of `queryOwnershipQuorum`; the error of `applyActivityOwnershipClaim` is dropped. -/
def DurableAgent.quorumQuery (env : Env) (config : OwnershipConfig) (s : DurableAgent)
    (answers : OwnershipAnswers) (saved : Bool) :
    DurableAgent × Option (ActivityOwnershipClaim × Decision) :=
  match answers.maximal with
  | none => (s, none)
  | some maximal =>
    let applied := s.apply env maximal false saved
    (applied.agent, if applied.accepted ∧
          config.required ≤ (matchingNodes config.nodeID answers.claims maximal).card then
        some (maximal, ownershipDecision config.nodeID answers.availability maximal)
      else none)

def childClaim (env : Env) (config : OwnershipConfig) (request : OwnershipTakeoverRequest)
    (parent : ActivityOwnershipClaim) (now : ℤ) : Option ActivityOwnershipClaim :=
  makeActivityOwnershipClaim env request.handle config.nodeID parent.controllerGeneration
    parent.activityEpoch (int64Succ parent.takeoverSequence) .userConfirmedTakeover parent.claimID
    request.operationID now

def grantClaim (env : Env) (config : OwnershipConfig) (handle : String)
    (controllerGeneration activityEpoch now : ℤ) : Option ActivityOwnershipClaim :=
  makeActivityOwnershipClaim env (env.toLower handle) config.nodeID controllerGeneration
  activityEpoch
    0 .controllerGrant "" "" now

/-- One step of the agent: a critical section, or a decision of the takeover being served.  `saved`
says whether the save that the step makes succeeds. -/
inductive DurableAct
  | grant (handle : String) (controllerGeneration activityEpoch now : ℤ) (saved : Bool)
  | observe (claim : ActivityOwnershipClaim) (saved : Bool)
  | resolve (answers : OwnershipAnswers) (saved : Bool)
  | takeover (request : OwnershipTakeoverRequest)
  /-- The query of the takeover has collected its answers. -/
  | confirm (answers : OwnershipAnswers) (saved : Bool)
  /-- The query of the takeover has not: it is refused or its time is up. -/
  | unanswered | readParent
  | applyChild (now : ℤ) (saved : Bool)
  | journal (now : ℤ) (saved : Bool)
  | broadcast
  | finishBroadcast (nodes : Finset NodeID)
  | markSucceeded (now : ℤ) (saved : Bool)
  | audit (appended : Bool) (now : ℤ) (saved : Bool)
  | acknowledgeTakeovers (operations : List String) (saved : Bool)
  /-- Another part of the agent saves the runtime state. -/
  | saveState | restart

/-- `validOwnershipHandle`, `validOwnershipDigest` and `validUUID` on a takeover request. -/
def OwnershipTakeoverRequest.valid (env : Env) (request : OwnershipTakeoverRequest) : Bool :=
  validOwnershipHandle env request.handle && validOwnershipDigest request.parentClaimID &&
    validUUID request.operationID

namespace DurableAgent

variable (env : Env) (config : OwnershipConfig)

section

variable (s : DurableAgent)

/-- `performUserConfirmedTakeover` takes the lock and reads the journal.  The mode was checked
before, so it may be any by now. -/
def startTakeover (request : OwnershipTakeoverRequest) : Option DurableAgent :=
  if request.valid env ∧ s.takeover = none then
    match s.memory.operation? request.operationID with
    | some operation =>
      if operation.claim.handle = request.handle ∧
          operation.parentClaimID = request.parentClaimID then
        some (s.moveTo request (.journaled operation))
      else some s
    | none => some (s.moveTo request .querying)
  else none

def confirmTakeover (answers : OwnershipAnswers) (saved : Bool) : Option DurableAgent :=
  match s.takeover with
  | some (request, .querying) =>
    let result := s.quorumQuery env config answers saved
    match result.2 with
    | some (maximal, .takeoverRequired) =>
      if maximal.claimID = request.parentClaimID then some (result.1.moveTo request .confirmed)
      else some result.1.endTakeover
    | _ => some result.1.endTakeover
  | _ => none

def readParent : Option DurableAgent :=
  match s.takeover with
  | some (request, .confirmed) =>
    match s.memory.activityOwnership request.handle with
    | some parent =>
      if parent.claimID = request.parentClaimID then some (s.moveTo request (.parentRead parent))
      else some s.endTakeover
    | none => some s.endTakeover
  | _ => none

def applyChild (now : ℤ) (saved : Bool) : Option DurableAgent :=
  match s.takeover with
  | some (request, .parentRead parent) =>
    match childClaim env config request parent now with
    | some claim =>
      let applied := s.apply env claim true saved
      if applied.error || !applied.accepted then some applied.agent.endTakeover
      else some (applied.agent.moveTo request (.applied claim))
    | none => some s.endTakeover
  | _ => none

def journal (now : ℤ) (saved : Bool) : Option DurableAgent :=
  match s.takeover with
  | some (request, .applied claim) =>
    if maxOwnershipTakeovers ≤ s.memory.ownershipTakeovers.length then some s.endTakeover
    else
      let operation : OwnershipTakeoverOperation :=
        { operationID := request.operationID, parentClaimID := claim.parentClaimID, claim
          succeeded := false, audited := false, updatedAt := now }
      let written := { s with memory := s.memory.putOperation operation }.save saved
      if saved then some (written.moveTo request (.journaled operation))
      else some written.endTakeover
  | _ => none

def broadcast : Option DurableAgent :=
  match s.takeover with
  | some (request, .journaled operation) =>
    if operation.succeeded then some (s.moveTo request (.succeeded operation))
    else some (s.moveTo request (.broadcasting operation))
  | _ => none

def finishBroadcast (nodes : Finset NodeID) : Option DurableAgent :=
  match s.takeover with
  | some (request, .broadcasting operation) =>
    if config.required ≤ (insert config.nodeID nodes).card then
      some (s.moveTo request (.acknowledged operation))
    else some s.endTakeover
  | _ => none

def markSucceeded (now : ℤ) (saved : Bool) : Option DurableAgent :=
  match s.takeover with
  | some (request, .acknowledged operation) =>
    match s.memory.operation? operation.operationID with
    | some current =>
      let current := { current with succeeded := true, updatedAt := now }
      let written := { s with memory := s.memory.putOperation current }.save saved
      if saved then some (written.moveTo request (.succeeded current))
      else some written.endTakeover
    | none => none
  | _ => none

/-- `ensureOwnershipTakeoverAudit`; the takeover returns whatever its outcome. -/
def audit (appended : Bool) (now : ℤ) (saved : Bool) : Option DurableAgent :=
  match s.takeover with
  | some (_, .succeeded operation) =>
    if operation.audited || !appended then some s.endTakeover
    else match s.memory.operation? operation.operationID with
      | some current =>
        if current.claim.claimID = operation.claim.claimID ∧ current.succeeded then
          let current := { current with audited := true, updatedAt := now }
          some ({ s with memory := s.memory.putOperation current }.save saved).endTakeover
        else some s.endTakeover
      | none => some s.endTakeover
  | _ => none

/-- `recordControllerSuccess` drops the operations that the controller has acknowledged. -/
def acknowledgeTakeovers (operations : List String) (saved : Bool) : DurableAgent :=
  { s with memory := { s.memory with
      ownershipTakeovers := s.memory.ownershipTakeovers.filter fun op =>
        !(op.operationID ∈ operations && op.succeeded && op.audited) } }.save saved

end

end DurableAgent

section Step

variable (env : Env) (config : OwnershipConfig)

def durableStep (s : DurableAgent) : DurableAct → Option DurableAgent
  | .grant handle generation epoch now saved =>
    (grantClaim env config handle generation epoch now).map fun claim =>
      (s.apply env claim false saved).agent
  | .observe claim saved =>
    if validateActivityOwnershipClaim env claim then
      some (s.apply env claim (claim.kind = .userConfirmedTakeover) saved).agent
    else none
  | .resolve answers saved => some (s.quorumQuery env config answers saved).1
  | .takeover request => s.startTakeover env request
  | .confirm answers saved => s.confirmTakeover env config answers saved
  | .unanswered => if s.takeover.any (·.2 = .querying) then some s.endTakeover else none
  | .readParent => s.readParent
  | .applyChild now saved => s.applyChild env config now saved
  | .journal now saved => s.journal now saved
  | .broadcast => s.broadcast
  | .finishBroadcast nodes => s.finishBroadcast config nodes
  | .markSucceeded now saved => s.markSucceeded now saved
  | .audit appended now saved => s.audit appended now saved
  | .acknowledgeTakeovers operations saved => some (s.acknowledgeTakeovers operations saved)
  | .saveState => some (s.save true)
  | .restart => some { memory := s.disk, disk := s.disk, takeover := none }

/-- The call of `applyActivityOwnershipClaim` that a step makes: the claim, whether its parent is
required, and whether the save would succeed. -/
def appliedClaim (s : DurableAgent) : DurableAct → Option (ActivityOwnershipClaim × Bool × Bool)
  | .grant handle generation epoch now saved =>
    (grantClaim env config handle generation epoch now).map fun claim => (claim, false, saved)
  | .observe claim saved => some (claim, claim.kind = .userConfirmedTakeover, saved)
  | .resolve answers saved => answers.maximal.map fun claim => (claim, false, saved)
  | .confirm answers saved => answers.maximal.map fun claim => (claim, false, saved)
  | .applyChild now saved =>
    match s.takeover with
    | some (request, .parentRead parent) =>
      (childClaim env config request parent now).map fun claim => (claim, true, saved)
    | _ => none
  | _ => none

end Step

/-! ## What a step does to claims -/

/-- The agent after the call of `applyActivityOwnershipClaim` that a step makes, if it makes one. -/
inductive AppliedBy (env : Env) (config : OwnershipConfig) (s : DurableAgent) (act : DurableAct) :
    DurableAgent → Prop
  | applied {claim requireParent saved}
      (call : appliedClaim env config s act = some (claim, requireParent, saved)) :
      AppliedBy env config s act (s.apply env claim requireParent saved).agent
  | nothing (call : appliedClaim env config s act = none) : AppliedBy env config s act s

inductive DurableAgent.Goes (s : DurableAgent) :
    Option (OwnershipTakeoverRequest × TakeoverPhase) → Prop
  | stays : s.Goes s.takeover
  | ends {request phase} (serving : s.takeover = some (request, phase))
      (early : ∀ claim, phase ≠ .applied claim) : s.Goes none
  | confirmed {request} (serving : s.takeover = some (request, .querying)) :
      s.Goes (some (request, .confirmed))
  | parentRead {request} {parent : ActivityOwnershipClaim}
      (serving : s.takeover = some (request, .confirmed))
      (found : parent.claimID = request.parentClaimID) : s.Goes (some (request, .parentRead parent))
  | onward {request before after operation} (serving : s.takeover = some (request, before))
      (known : before = .journaled operation ∨ before = .broadcasting operation)
      (next : after = .broadcasting operation ∨ after = .acknowledged operation ∨
        after = .succeeded operation) : s.Goes (some (request, after))

def DurableAgent.writeEntry (s : DurableAgent) (operation : OwnershipTakeoverOperation)
    (saved : Bool)
    (takeover : Option (OwnershipTakeoverRequest × TakeoverPhase)) : DurableAgent :=
  { { s with memory := s.memory.putOperation operation }.save saved with takeover }

inductive StepsTo (env : Env) (config : OwnershipConfig) (s : DurableAgent) :
    DurableAct → DurableAgent → Prop
  | goes {act t takeover} (applied : AppliedBy env config s act t) (goes : s.Goes takeover)
      (other : ∀ now saved, act = .applyChild now saved → t = s) (running : act ≠ .restart) :
      StepsTo env config s act { t with takeover }
  | starts {request phase} (idle : s.takeover = none)
      (reads : phase = .querying ∧ s.memory.operation? request.operationID = none ∨
        ∃ operation, phase = .journaled operation ∧
          s.memory.operation? request.operationID = some operation) :
      StepsTo env config s (.takeover request) (s.moveTo request phase)
  | child {now saved request parent claim takeover}
      (serving : s.takeover = some (request, .parentRead parent))
      (made : childClaim env config request parent now = some claim)
      (next : takeover = none ∧
          ((s.apply env claim true saved).error ∨ ¬ (s.apply env claim true saved).accepted) ∨
        takeover = some (request, .applied claim) ∧ (s.apply env claim true saved).accepted) :
      StepsTo env config s (.applyChild now saved)
        { (s.apply env claim true saved).agent with takeover }
  | full {now saved request claim} (serving : s.takeover = some (request, .applied claim))
      (full : maxOwnershipTakeovers ≤ s.memory.ownershipTakeovers.length) :
      StepsTo env config s (.journal now saved) s.endTakeover
  | journals {now saved request claim operation}
      (serving : s.takeover = some (request, .applied claim))
      (entry : operation =
        { operationID := request.operationID, parentClaimID := claim.parentClaimID, claim
          succeeded := false, audited := false, updatedAt := now }) :
      StepsTo env config s (.journal now saved)
        (s.writeEntry operation saved
          (if saved then some (request, .journaled operation) else none))
  | rewrites {act request before operation current saved takeover}
      (call : appliedClaim env config s act = none)
      (serving : s.takeover = some (request, before)) (late : ∀ claim, before ≠ .applied claim)
      (found : s.memory.operation? operation.operationID = some current)
      (same : operation.claim = current.claim ∧ operation.parentClaimID = current.parentClaimID)
      (next : takeover = none ∨ takeover = some (request, .succeeded operation)) :
      StepsTo env config s act (s.writeEntry operation saved takeover)
  | acknowledges (operations : List String) (saved : Bool) : StepsTo env config s
      (.acknowledgeTakeovers operations saved) (s.acknowledgeTakeovers operations saved)
  | saves : StepsTo env config s .saveState (s.save true)
  | restarts : StepsTo env config s .restart { memory := s.disk, disk := s.disk, takeover := none }

variable {env : Env} {config : OwnershipConfig} {s s' : DurableAgent} {act : DurableAct}
  {claim : ActivityOwnershipClaim} {requireParent saved : Bool}

open DurableAgent

lemma DurableAgent.apply_agent : (s.apply env claim requireParent saved).agent =
    if s.memory.storesClaim env claim requireParent then
      { s with memory := s.memory.store claim }.save saved else s := by
  dsimp only [apply]
  by_cases hstores : s.memory.storesClaim env claim requireParent
  · rw [if_pos hstores, if_pos hstores, applyActivityOwnershipClaim_eq, if_pos hstores]
  · rw [if_neg hstores, if_neg hstores]

lemma DurableAgent.apply_accepted (haccepted : (s.apply env claim requireParent saved).accepted) :
    s.memory.storesClaim env claim requireParent ∨
      ∃ current, s.memory.activityOwnership claim.handle = some current ∧
        current.claimID = claim.claimID := by
  dsimp only [apply] at haccepted
  rw [applyActivityOwnershipClaim_eq] at haccepted
  by_cases hstores : s.memory.storesClaim env claim requireParent
  · exact .inl hstores
  · rw [if_neg hstores, Bool.and_eq_true, Option.any_eq_true] at haccepted
    obtain ⟨-, current, hcurrent, hid⟩ := haccepted
    exact .inr ⟨current, hcurrent, of_decide_eq_true hid⟩

variable {st : NodeState} {c : ActivityOwnershipClaim}

lemma NodeState.key_lt_of_storesClaim {current : ActivityOwnershipClaim}
    (hstores : st.storesClaim env claim requireParent)
    (hcurrent : st.activityOwnership claim.handle = some current) : current.key < claim.key := by
  simp only [storesClaim, hcurrent, Bool.and_eq_true, Bool.not_eq_true',
    decide_eq_true_eq] at hstores
  exact compareActivityOwnership_newer_iff.mp hstores.2.2

lemma DurableAgent.apply_journal (env : Env) (s : DurableAgent) (claim : ActivityOwnershipClaim)
    (requireParent saved : Bool) :
    (s.apply env claim requireParent saved).agent.takeover = s.takeover ∧
    (s.apply env claim requireParent saved).agent.memory.ownershipTakeovers =
      s.memory.ownershipTakeovers ∧ ((s.apply env claim requireParent saved).agent.disk = s.disk ∨
      (s.apply env claim requireParent saved).agent.disk =
        (s.apply env claim requireParent saved).agent.memory) := by
  rw [apply_agent]
  split
  · cases saved <;> simp [save, store]
  · exact ⟨rfl, rfl, .inl rfl⟩

variable {t : DurableAgent}

lemma AppliedBy.journal (h : AppliedBy env config s act t) :
    t.takeover = s.takeover ∧ t.memory.ownershipTakeovers = s.memory.ownershipTakeovers ∧
      (t.disk = s.disk ∨ t.disk = t.memory) := by
  cases h with
  | applied => exact apply_journal ..
  | nothing => exact ⟨rfl, rfl, .inl rfl⟩

lemma AppliedBy.of_query {answers : OwnershipAnswers}
    (hcall : appliedClaim env config s act = answers.maximal.map fun claim =>
      (claim, false, saved)) :
    AppliedBy env config s act (s.quorumQuery env config answers saved).1 := by
  unfold quorumQuery
  cases hmaximal : answers.maximal with
  | none => exact .nothing (by rw [hcall, hmaximal]; rfl)
  | some claim => exact .applied (by rw [hcall, hmaximal]; rfl)

lemma StepsTo.stays (applied : AppliedBy env config s act t)
    (other : ∀ now saved, act = .applyChild now saved → t = s) (running : act ≠ .restart) :
    StepsTo env config s act t := by
  have hgoes := StepsTo.goes applied .stays other running
  rwa [← applied.journal.1] at hgoes

lemma stepsTo_takeover {request : OwnershipTakeoverRequest}
    (hstep : durableStep env config s (.takeover request) = some s') :
    StepsTo env config s (.takeover request) s' := by
  obtain ⟨⟨-, hidle⟩, hstep⟩ := ite_none_right_eq_some.mp hstep
  split at hstep
  next operation hfound =>
    split at hstep <;> cases hstep
    · exact .starts hidle (.inr ⟨operation, rfl, hfound⟩)
    · exact .stays (.nothing rfl) nofun nofun
  next hfound =>
    cases hstep
    exact .starts hidle (.inl ⟨rfl, hfound⟩)

lemma stepsTo_confirm {answers : OwnershipAnswers} {saved : Bool}
    (hstep : durableStep env config s (.confirm answers saved) = some s') :
    StepsTo env config s (.confirm answers saved) s' := by
  have hquery : AppliedBy env config s (.confirm answers saved) _ := .of_query rfl
  simp only [durableStep, confirmTakeover] at hstep
  split at hstep
  next request hserving =>
    split at hstep
    · split at hstep <;> cases hstep
      · exact .goes hquery (.confirmed hserving) nofun nofun
      · exact .goes hquery (.ends hserving (by simp)) nofun nofun
    · cases hstep
      exact .goes hquery (.ends hserving (by simp)) nofun nofun
  · cases hstep

lemma stepsTo_applyChild {now : ℤ} {saved : Bool}
    (hstep : durableStep env config s (.applyChild now saved) = some s') :
    StepsTo env config s (.applyChild now saved) s' := by
  simp only [durableStep, applyChild] at hstep
  split at hstep
  next request parent hserving =>
    split at hstep
    next claim hclaim =>
      split at hstep <;> cases hstep
      next hfails => exact .child hserving hclaim (.inl ⟨rfl, by simpa using hfails⟩)
      next hpasses => exact .child hserving hclaim (.inr ⟨rfl, by simp_all⟩)
    next hclaim =>
      cases hstep
      exact .goes (.nothing (by simp [appliedClaim, hserving, hclaim]))
        (.ends hserving (by simp)) (fun _ _ _ => rfl) nofun
  · cases hstep

lemma stepsTo_markSucceeded {now : ℤ} {saved : Bool}
    (hstep : durableStep env config s (.markSucceeded now saved) = some s') :
    StepsTo env config s (.markSucceeded now saved) s' := by
  simp only [durableStep, markSucceeded] at hstep
  split at hstep
  next request operation hserving =>
    split at hstep
    next current hfound =>
      rw [← (operation?_eq_some hfound).2] at hfound
      cases saved <;> cases hstep
      · exact .rewrites rfl hserving (by simp) hfound ⟨rfl, rfl⟩ (.inl rfl)
      · exact .rewrites rfl hserving (by simp) hfound ⟨rfl, rfl⟩ (.inr rfl)
    · cases hstep
  · cases hstep

lemma stepsTo_audit {appended saved : Bool} {now : ℤ}
    (hstep : durableStep env config s (.audit appended now saved) = some s') :
    StepsTo env config s (.audit appended now saved) s' := by
  simp only [durableStep, audit] at hstep
  split at hstep
  next request operation hserving =>
    have hends : StepsTo env config s (.audit appended now saved) s.endTakeover :=
      .goes (.nothing rfl) (.ends hserving (by simp)) nofun nofun
    split at hstep
    · exact some.inj hstep ▸ hends
    split at hstep
    next current hfound =>
      split at hstep <;> cases hstep
      · rw [← (operation?_eq_some hfound).2] at hfound
        exact .rewrites rfl hserving (by simp) hfound ⟨rfl, rfl⟩ (.inl rfl)
      · exact hends
    · exact some.inj hstep ▸ hends
  · cases hstep

section

variable (hstep : durableStep env config s act = some s')
include hstep

lemma stepsTo_of_durableStep : StepsTo env config s act s' := by
  cases act with
  | grant handle generation epoch now saved =>
    obtain ⟨claim, hclaim, rfl⟩ := map_eq_some_iff.mp hstep
    exact .stays (.applied (congrArg (Option.map fun claim => (claim, false, saved)) hclaim)) nofun
      nofun
  | observe claim saved =>
    obtain ⟨-, rfl⟩ := of_guarded hstep
    exact .stays (.applied rfl) nofun nofun
  | resolve answers saved =>
    cases hstep
    exact .stays (.of_query rfl) nofun nofun
  | takeover => exact stepsTo_takeover hstep
  | confirm => exact stepsTo_confirm hstep
  | unanswered =>
    obtain ⟨hquerying, rfl⟩ := of_guarded hstep
    obtain ⟨⟨request, phase⟩, hserving, hphase⟩ := (Option.any_eq_true _ _).mp hquerying
    obtain rfl : phase = .querying := of_decide_eq_true hphase
    exact .goes (.nothing rfl) (.ends hserving (by simp)) nofun nofun
  | readParent =>
    simp only [durableStep, readParent] at hstep
    split at hstep
    next request hserving =>
      split at hstep
      next parent _ =>
        split at hstep <;> cases hstep
        next hfound => exact .goes (.nothing rfl) (.parentRead hserving hfound) nofun nofun
        next => exact .goes (.nothing rfl) (.ends hserving (by simp)) nofun nofun
      · cases hstep
        exact .goes (.nothing rfl) (.ends hserving (by simp)) nofun nofun
    · cases hstep
  | applyChild => exact stepsTo_applyChild hstep
  | journal now saved =>
    simp only [durableStep, journal] at hstep
    split at hstep
    next request claim hserving =>
      split at hstep
      next hfull =>
        cases hstep
        exact .full hserving hfull
      · cases saved <;> obtain rfl := some.inj hstep <;> exact .journals hserving rfl
    · cases hstep
  | broadcast =>
    simp only [durableStep, broadcast] at hstep
    split at hstep
    next request operation hserving =>
      split at hstep <;> cases hstep
      · exact .goes (.nothing rfl) (.onward hserving (.inl rfl) (.inr (.inr rfl))) nofun nofun
      · exact .goes (.nothing rfl) (.onward hserving (.inl rfl) (.inl rfl)) nofun nofun
    · cases hstep
  | finishBroadcast nodes =>
    simp only [durableStep, finishBroadcast] at hstep
    split at hstep
    next request operation hserving =>
      split at hstep <;> cases hstep
      · exact .goes (.nothing rfl) (.onward hserving (.inr rfl) (.inr (.inl rfl))) nofun nofun
      · exact .goes (.nothing rfl) (.ends hserving (by simp)) nofun nofun
    · cases hstep
  | markSucceeded => exact stepsTo_markSucceeded hstep
  | audit => exact stepsTo_audit hstep
  | acknowledgeTakeovers operations saved =>
    cases hstep
    exact .acknowledges ..
  | saveState =>
    cases hstep
    exact .saves
  | restart =>
    cases hstep
    exact .restarts

lemma durableStep_cases :
    (act = .restart ∧ s' = { memory := s.disk, disk := s.disk, takeover := none }) ∨
    (∃ claim requireParent saved, appliedClaim env config s act =
      some (claim, requireParent, saved) ∧
      s'.memory = (s.apply env claim requireParent saved).agent.memory ∧
      s'.disk = (s.apply env claim requireParent saved).agent.disk) ∨
    (appliedClaim env config s act = none ∧
      s'.memory.activityOwnership = s.memory.activityOwnership ∧
      (s'.disk = s.disk ∨ s'.disk = s'.memory)) := by
  cases stepsTo_of_durableStep hstep with
  | goes applied =>
    cases applied with
    | applied call => exact .inr (.inl ⟨_, _, _, call, rfl, rfl⟩)
    | nothing call => exact .inr (.inr ⟨call, rfl, .inl rfl⟩)
  | starts | full => exact .inr (.inr ⟨rfl, rfl, .inl rfl⟩)
  | child serving made =>
    exact .inr (.inl ⟨_, _, _, by simp [appliedClaim, serving, made], rfl, rfl⟩)
  | @journals _ saved | acknowledges operations saved =>
    cases saved
    · exact .inr (.inr ⟨rfl, rfl, .inl rfl⟩)
    · exact .inr (.inr ⟨rfl, rfl, .inr rfl⟩)
  | @rewrites _ _ _ _ _ saved _ call =>
    cases saved
    · exact .inr (.inr ⟨call, rfl, .inl rfl⟩)
    · exact .inr (.inr ⟨call, rfl, .inr rfl⟩)
  | saves => exact .inr (.inr ⟨rfl, rfl, .inr rfl⟩)
  | restarts => exact .inl ⟨rfl, rfl⟩

end

/-! ## Acknowledgements -/

/-- The claim for which a step counts the agent: `applyActivityOwnershipClaim` returns accepted and
no error, a quorum query counts the node itself, or a takeover starts its count of acknowledgements
with it. -/
def acknowledgedClaim (env : Env) (config : OwnershipConfig) (s : DurableAgent)
    (act : DurableAct) : Option ActivityOwnershipClaim :=
  match act, appliedClaim env config s act with
  | .resolve .., some (claim, requireParent, saved) | .confirm ..,
    some (claim, requireParent, saved) =>
    if (s.apply env claim requireParent saved).accepted then some claim else none
  | .broadcast, _ =>
    match s.takeover with
    | some (_, .journaled operation) => if operation.succeeded then none else some operation.claim
    | _ => none
  | _, some (claim, requireParent, saved) =>
    let applied := s.apply env claim requireParent saved
    if applied.accepted && !applied.error then some claim else none
  | _, none => none

def NodeState.HoldsClaim (st : NodeState) (claim : ActivityOwnershipClaim) : Prop :=
  ∃ held, st.activityOwnership claim.handle = some held ∧
    (held.claimID = claim.claimID ∧ held.key = claim.key ∨ claim.key < held.key)

/-- The condition: the save of a newly stored claim succeeds, and a claim that is applied over one
of the same identity stands at the same place, since identities are digests. -/
def savesNewClaims (env : Env) (config : OwnershipConfig) (s : DurableAgent) (act : DurableAct) :
    Bool :=
  (appliedClaim env config s act).all fun (claim, requireParent, saved) =>
    (!s.memory.storesClaim env claim requireParent || saved) &&
    (s.memory.activityOwnership claim.handle).all fun current =>
      current.claimID != claim.claimID || current.key = claim.key

def TakeoverPhase.claims : TakeoverPhase → List ActivityOwnershipClaim
  | .applied claim => [claim]
  | .journaled operation | .broadcasting operation | .acknowledged operation
  | .succeeded operation => [operation.claim]
  | .querying | .confirmed | .parentRead _ => []

def DurableAgent.claims (s : DurableAgent) : List ActivityOwnershipClaim :=
  s.memory.ownershipTakeovers.map (·.claim) ++ s.disk.ownershipTakeovers.map (·.claim) ++
    s.takeover.elim [] (·.2.claims)

lemma DurableAgent.mem_claims : c ∈ s.claims ↔ (∃ op ∈ s.memory.ownershipTakeovers, op.claim = c) ∨
    (∃ op ∈ s.disk.ownershipTakeovers, op.claim = c) ∨
    ∃ request phase, s.takeover = some (request, phase) ∧ c ∈ phase.claims := by
  unfold claims
  cases s.takeover with
  | none => simp
  | some serving =>
    obtain ⟨request, phase⟩ := serving
    simp

structure DurableAgent.Synced (s : DurableAgent) : Prop where
  owned : s.disk.activityOwnership = s.memory.activityOwnership
  holds : ∀ claim ∈ s.claims, s.memory.HoldsClaim claim

lemma NodeState.HoldsClaim.congr {st' : NodeState} (h : st.HoldsClaim claim)
    (howned : st'.activityOwnership = st.activityOwnership) : st'.HoldsClaim claim := by
  unfold HoldsClaim
  rwa [howned]

lemma NodeState.HoldsClaim.store (h : st.HoldsClaim c)
    (hstores : st.storesClaim env claim requireParent) : (st.store claim).HoldsClaim c := by
  obtain ⟨held, hheld, hplace⟩ := h
  by_cases hhandle : c.handle = claim.handle
  · have hlt : held.key < claim.key :=
      NodeState.key_lt_of_storesClaim hstores (by rw [← hhandle]; exact hheld)
    refine ⟨claim, by simp [NodeState.store, hhandle], .inr ?_⟩
    rcases hplace with ⟨-, hkey⟩ | hlt'
    · rwa [← hkey]
    · exact hlt'.trans hlt
  · exact ⟨held, by simpa [NodeState.store, hhandle] using hheld, hplace⟩

lemma DurableAgent.holds_of_accepted
    (hplace : ∀ current, s.memory.activityOwnership claim.handle = some current →
      current.claimID = claim.claimID → current.key = claim.key)
    (haccepted : (s.apply env claim requireParent saved).accepted) :
    (s.apply env claim requireParent saved).agent.memory.HoldsClaim claim := by
  rw [apply_agent]
  rcases apply_accepted haccepted with hstores | ⟨current, hcurrent, hid⟩
  · rw [if_pos hstores]
    have hmemory : (save { s with memory := s.memory.store claim } saved).memory =
        s.memory.store claim := by
      cases saved <;> rfl
    rw [hmemory]
    exact ⟨claim, by simp [store], .inl ⟨rfl, rfl⟩⟩
  · have hheld : s.memory.HoldsClaim claim :=
      ⟨current, hcurrent, .inl ⟨hid, hplace current hcurrent hid⟩⟩
    by_cases hstores : s.memory.storesClaim env claim requireParent
    · rw [if_pos hstores]
      cases saved <;> exact hheld.store hstores
    · rwa [if_neg hstores]

open DurableAgent

namespace DurableAgent

lemma mem_claims_of_operation {operationID : String}
    (hfound : s.memory.operation? operationID = some operation) : operation.claim ∈ s.claims :=
  mem_claims.mpr (.inl ⟨operation, mem_of_find?_eq_some hfound, rfl⟩)

lemma mem_claims_of_phase {request : OwnershipTakeoverRequest} {phase : TakeoverPhase}
    (htakeover : s.takeover = some (request, phase)) (hc : c ∈ phase.claims) : c ∈ s.claims :=
  mem_claims.mpr (.inr (.inr ⟨request, phase, htakeover, hc⟩))

lemma claims_of_sources (hc : c ∈ s'.claims)
    (hmemory : ∀ op ∈ s'.memory.ownershipTakeovers, op.claim ∈ s.claims)
    (hdisk : s'.disk = s.disk ∨ s'.disk = s'.memory)
    (htakeover : ∀ request phase, s'.takeover = some (request, phase) →
      ∀ c ∈ phase.claims, c ∈ s.claims) : c ∈ s.claims := by
  rcases mem_claims.mp hc with ⟨op, hop, rfl⟩ | ⟨op, hop, rfl⟩ | ⟨r, phase, ht, hc⟩
  · exact hmemory op hop
  · rcases hdisk with hsame | hsaved
    · rw [hsame] at hop
      exact mem_claims.mpr (.inr (.inl ⟨op, hop, rfl⟩))
    · rw [hsaved] at hop
      exact hmemory op hop
  · exact htakeover r phase ht c hc

lemma claims_of_putOperation (hknown : operation.claim ∈ s.claims) (op : OwnershipTakeoverOperation)
    (hop : op ∈ (s.memory.putOperation operation).ownershipTakeovers) : op.claim ∈ s.claims := by
  rcases mem_cons.mp hop with rfl | hold
  · exact hknown
  · exact mem_claims.mpr (.inl ⟨op, mem_of_mem_filter hold, rfl⟩)

lemma claims_of_journal (hjournal : s'.memory.ownershipTakeovers = s.memory.ownershipTakeovers)
    (op : OwnershipTakeoverOperation) (hop : op ∈ s'.memory.ownershipTakeovers) :
    op.claim ∈ s.claims :=
  mem_claims.mpr (.inl ⟨op, hjournal ▸ hop, rfl⟩)

end DurableAgent

open DurableAgent

lemma claims_after_step {c : ActivityOwnershipClaim}
    (hstep : durableStep env config s act = some s') (hc : c ∈ s'.claims) :
    c ∈ s.claims ∨ ∃ saved, appliedClaim env config s act = some (c, true, saved) ∧
      (s.apply env c true saved).accepted := by
  have hended (request : OwnershipTakeoverRequest) (phase : TakeoverPhase)
      (ht : none = some (request, phase)) : ∀ d ∈ phase.claims, d ∈ s.claims := nomatch ht
  -- a step that writes an entry with a known claim
  have hwrite {operation : OwnershipTakeoverOperation} {saved : Bool}
      {takeover : Option (OwnershipTakeoverRequest × TakeoverPhase)}
      (hknown : operation.claim ∈ s.claims)
      (hnext : ∀ request phase, takeover = some (request, phase) → phase.claims = [operation.claim])
      (hc : c ∈ (s.writeEntry operation saved takeover).claims) : c ∈ s.claims := by
    refine claims_of_sources hc ?_ ?_ fun request phase htakeover d hd => ?_
    · cases saved <;> exact claims_of_putOperation hknown
    · cases saved
      · exact .inl rfl
      · exact .inr rfl
    · rw [hnext request phase htakeover, mem_singleton] at hd
      rwa [hd]
  cases stepsTo_of_durableStep hstep with
  | goes applied goes =>
    obtain ⟨-, hjournal, hdisk⟩ := applied.journal
    refine .inl (claims_of_sources hc (claims_of_journal hjournal) hdisk ?_)
    cases goes with
    | stays => exact fun _ _ hserving _ => mem_claims_of_phase hserving
    | ends => exact hended
    | confirmed | parentRead => rintro _ _ ⟨⟩ _ ⟨⟩
    | onward serving known next =>
      rintro _ _ ⟨⟩ d hd
      refine mem_claims_of_phase serving ?_
      rcases known with rfl | rfl <;> rcases next with rfl | rfl | rfl <;> exact hd
  | starts _ reads =>
    refine .inl (claims_of_sources hc (claims_of_journal rfl) (.inl rfl) ?_)
    rintro _ _ ⟨⟩ d hd
    rcases reads with ⟨rfl, -⟩ | ⟨operation, rfl, hfound⟩
    · cases hd
    · rw [TakeoverPhase.claims, mem_singleton] at hd
      exact hd ▸ mem_claims_of_operation hfound
  | @child _ saved request parent child _ serving made next =>
    obtain ⟨-, hjournal, hdisk⟩ := apply_journal env s child true saved
    rcases next with ⟨rfl, -⟩ | ⟨rfl, haccepted⟩
    · exact .inl (claims_of_sources hc (claims_of_journal hjournal) hdisk hended)
    by_cases hnew : c = child
    · subst hnew
      exact .inr ⟨saved, by simp [appliedClaim, serving, made], haccepted⟩
    have hold : c ∈ (s.apply env child true saved).agent.endTakeover.claims := by
      rw [mem_claims] at hc ⊢
      refine hc.imp_right (Or.imp_right ?_)
      rintro ⟨_, _, ⟨⟩, hd⟩
      exact absurd (mem_singleton.mp hd) hnew
    exact .inl (claims_of_sources hold (claims_of_journal hjournal) hdisk hended)
  | full => exact .inl (claims_of_sources hc (claims_of_journal rfl) (.inl rfl) hended)
  | @journals _ saved request claim _ serving entry =>
    have hknown : claim ∈ s.claims := mem_claims_of_phase serving (mem_singleton_self _)
    refine .inl (hwrite (by rwa [entry]) (fun _ _ ht => ?_) hc)
    obtain ⟨-, -, rfl⟩ := ite_none_right_eq_some.mp ht
    rfl
  | rewrites _ _ _ found same next =>
    refine .inl (hwrite (same.1 ▸ mem_claims_of_operation found) ?_ hc)
    rintro _ _ rfl
    rcases next with hnone | hsome
    · cases hnone
    · obtain ⟨-, rfl⟩ := Prod.mk.inj (some.inj hsome)
      rfl
  | acknowledges operations saved =>
    refine .inl (claims_of_sources hc (fun op hop => ?_) ?_ ?_)
    · have hold : op ∈ s.memory.ownershipTakeovers := by
        cases saved <;> exact mem_of_mem_filter hop
      exact mem_claims.mpr (.inl ⟨op, hold, rfl⟩)
    · cases saved
      · exact .inl rfl
      · exact .inr rfl
    · cases saved <;> exact fun _ _ hserving _ => mem_claims_of_phase hserving
  | saves => exact .inl (claims_of_sources hc (claims_of_journal rfl) (.inr rfl)
      fun _ _ hserving _ => mem_claims_of_phase hserving)
  | restarts =>
    rcases mem_claims.mp hc with ⟨op, hop, rfl⟩ | ⟨op, hop, rfl⟩ | ⟨r, p, ht, -⟩
    · exact .inl (mem_claims.mpr (.inr (.inl ⟨op, hop, rfl⟩)))
    · exact .inl (mem_claims.mpr (.inr (.inl ⟨op, hop, rfl⟩)))
    · cases ht

lemma savesNewClaims_applied (hcond : savesNewClaims env config s act)
    (happlied : appliedClaim env config s act = some (claim, requireParent, saved)) :
    (s.memory.storesClaim env claim requireParent → saved) ∧
    ∀ current, s.memory.activityOwnership claim.handle = some current →
      current.claimID = claim.claimID → current.key = claim.key := by
  simp only [savesNewClaims, happlied, Option.all_some, Bool.and_eq_true, Bool.or_eq_true,
    Bool.not_eq_true'] at hcond
  obtain ⟨hsaved, hplace⟩ := hcond
  refine ⟨fun hstores => hsaved.resolve_left (by simp [hstores]), fun current hcurrent hid => ?_⟩
  rw [hcurrent, Option.all_some] at hplace
  simpa [hid] using hplace

lemma DurableAgent.Synced.applied (h : s.Synced)
    (hsaved : s.memory.storesClaim env claim requireParent → saved) :
    (s.apply env claim requireParent saved).agent.disk.activityOwnership =
        (s.apply env claim requireParent saved).agent.memory.activityOwnership ∧
      ∀ c, s.memory.HoldsClaim c →
        (s.apply env claim requireParent saved).agent.memory.HoldsClaim c := by
  rw [apply_agent]
  by_cases hstores : s.memory.storesClaim env claim requireParent
  · rw [if_pos hstores, hsaved hstores]
    exact ⟨rfl, fun c hc => hc.store hstores⟩
  · rw [if_neg hstores]
    exact ⟨h.owned, fun c hc => hc⟩

lemma holds_of_step (hcond : savesNewClaims env config s act)
    (hstep : durableStep env config s act = some s')
    (happlied : appliedClaim env config s act = some (claim, requireParent, saved))
    (haccepted : (s.apply env claim requireParent saved).accepted) :
    s'.memory.HoldsClaim claim := by
  rcases durableStep_cases hstep with ⟨rfl, -⟩ | ⟨c, parent, saved', happlied', hmemory, -⟩ |
    ⟨hnone, -⟩
  · cases happlied
  · rw [happlied] at happlied'
    cases happlied'
    rw [hmemory]
    exact holds_of_accepted (savesNewClaims_applied hcond happlied).2 haccepted
  · simp [happlied] at hnone

/-- **Disk and memory agree on the claims** after every step that meets the condition. -/
theorem DurableAgent.Synced.after_step (h : s.Synced) (hcond : savesNewClaims env config s act)
    (hstep : durableStep env config s act = some s') : s'.Synced := by
  -- what was held before is held afterwards, and the disk follows
  have hkept : s'.disk.activityOwnership = s'.memory.activityOwnership ∧
      ∀ c, s.memory.HoldsClaim c → s'.memory.HoldsClaim c := by
    rcases durableStep_cases hstep with ⟨-, rfl⟩ | ⟨claim, parent, saved, happlied,
      hmemory, hdisk⟩ |
      ⟨-, howned, hdisk⟩
    · exact ⟨rfl, fun c hc => hc.congr h.owned⟩
    · rw [hmemory, hdisk]
      exact h.applied (savesNewClaims_applied hcond happlied).1
    · refine ⟨?_, fun c hc => hc.congr howned⟩
      rcases hdisk with hsame | hsaved
      · rw [hsame, howned, h.owned]
      · rw [hsaved]
  refine ⟨hkept.1, fun c hc => ?_⟩
  rcases claims_after_step hstep hc with hold | ⟨saved, happlied, haccepted⟩
  · exact hkept.2 c (h.holds c hold)
  · exact holds_of_step hcond hstep happlied haccepted

def DurableAgent.init : DurableAgent where
  memory := { activityOwnership := fun _ => none, ownershipTakeovers := [], independent := false }
  disk := { activityOwnership := fun _ => none, ownershipTakeovers := [], independent := false }
  takeover := none

lemma DurableAgent.Synced.init : DurableAgent.init.Synced where
  owned := rfl
  holds := by simp [DurableAgent.claims, DurableAgent.init]

lemma acknowledgedClaim_cases (hack : acknowledgedClaim env config s act = some claim) :
    (∃ requireParent saved, appliedClaim env config s act = some (claim, requireParent, saved) ∧
      (s.apply env claim requireParent saved).accepted) ∨
    (claim ∈ s.claims ∧ appliedClaim env config s act = none ∧ act ≠ .restart) := by
  unfold acknowledgedClaim at hack
  split at hack
  next c parent saved happlied =>
    obtain ⟨haccepted, rfl⟩ := of_guarded hack
    exact .inl ⟨parent, saved, happlied, haccepted⟩
  next c parent saved happlied =>
    obtain ⟨haccepted, rfl⟩ := of_guarded hack
    exact .inl ⟨parent, saved, happlied, haccepted⟩
  · split at hack
    next request operation htakeover =>
      obtain ⟨-, ⟨⟩⟩ := ite_none_left_eq_some.mp hack
      exact .inr ⟨mem_claims_of_phase htakeover (by simp [TakeoverPhase.claims]), rfl, nofun⟩
    · cases hack
  next c parent saved _ _ _ happlied =>
    obtain ⟨haccepted, rfl⟩ := of_guarded hack
    rw [Bool.and_eq_true] at haccepted
    exact .inl ⟨parent, saved, happlied, haccepted.1⟩
  · cases hack

/-- **Acknowledged claims are on disk**, in every run in which the saves of newly stored claims
succeed: whenever a claim is accepted without an error, or a query or a takeover counts the agent
for it, the disk has that claim or one with a larger triple.  Every other save may fail, and the
agent may restart at any point. -/
theorem acknowledged_claims_durable {acts : List DurableAct}
    (hmeets : Meets (durableStep env config) (fun s a => savesNewClaims env config s a = true)
      init (acts ++ [act])) (hrun : run (durableStep env config) init acts = some s)
    (hstep : durableStep env config s act = some s')
    (hack : acknowledgedClaim env config s act = some claim) :
    ∃ held, s'.disk.activityOwnership claim.handle = some held ∧
      (held.claimID = claim.claimID ∨ claim.key < held.key) := by
  obtain ⟨hmeets, hlast⟩ := meets_append.mp hmeets
  have hcond := (hlast s hrun).1
  have hsynced : s.Synced := run_invariant_of_meets (P := Synced)
    (fun t a u ht hc hs => ht.after_step hc hs) DurableAgent.Synced.init hmeets hrun
  have hsynced' := hsynced.after_step hcond hstep
  have hholds : s'.memory.HoldsClaim claim := by
    rcases acknowledgedClaim_cases hack with ⟨parent, saved, happlied, haccepted⟩ |
      ⟨hclaim, hnone, hnot⟩
    · exact holds_of_step hcond hstep happlied haccepted
    rcases durableStep_cases hstep with ⟨hrestart, -⟩ | ⟨c, parent', saved', happlied', -, -⟩ |
      ⟨-, howned, -⟩
    · exact absurd hrestart hnot
    · simp [hnone] at happlied'
    · exact (hsynced.holds claim hclaim).congr howned
  obtain ⟨held, hheld, hplace⟩ := hholds
  rw [hsynced'.owned]
  exact ⟨held, hheld, hplace.imp_left And.left⟩

namespace ThreeAgents

/-- Node `2` of the three agents. -/
def second : OwnershipConfig := ⟨2, 2⟩

/-- The answers of nodes `2` and `3` to a query, while node `1` is away. -/
def grantAnswers : OwnershipAnswers :=
  ⟨[(2, granted), (3, granted)], [(2, true), (3, true)]⟩

/-- Only node `3` has an answer. -/
def peerAnswers : OwnershipAnswers := ⟨[(3, granted)], [(3, true)]⟩

end ThreeAgents

open ThreeAgents in
theorem acknowledged_claims_durable_threeAgents : ∃ s s',
    run (durableStep digests second) init [.observe granted true] = some s ∧
      durableStep digests second s (.resolve grantAnswers false) = some s' ∧
      acknowledgedClaim digests second s (.resolve grantAnswers false) = some granted ∧
      ∃ held, s'.disk.activityOwnership "alice" = some held ∧
        (held.claimID = grantID ∨ granted.key < held.key) := by
  have hmeets : Meets (durableStep digests second)
      (fun s a => savesNewClaims digests second s a) init
      ([.observe granted true] ++ [.resolve grantAnswers false]) := by decide +kernel
  obtain ⟨s, hs, hack⟩ :
      ∃ s ∈ run (durableStep digests second) init [.observe granted true],
        acknowledgedClaim digests second s (.resolve grantAnswers false) = some granted := by
    decide +kernel
  exact ⟨s, _, hs, rfl, hack, acknowledged_claims_durable hmeets hs rfl hack⟩

open ThreeAgents in
/-- **Claims are acknowledged that are not on disk.**  A peer sends its grant, the save fails and
the peer is told so; it sends the grant again, which is now accepted without a save.  And a query
adopts the claim of a peer, ignores that the save fails, and decides with the agent itself in the
count.  The disk has no claim in either case. -/
theorem unsaved_claims_acknowledged :
    (∃ s s', run (durableStep digests second) init [.observe granted false] = some s ∧
      acknowledgedClaim digests second init (.observe granted false) = none ∧
      durableStep digests second s (.observe granted true) = some s' ∧
      acknowledgedClaim digests second s (.observe granted true) = some granted ∧
      s'.disk.activityOwnership "alice" = none) ∧
    (∃ s', durableStep digests second init (.resolve peerAnswers false) = some s' ∧
      (init.quorumQuery digests second peerAnswers false).2 = some (granted, .takeoverRequired) ∧
      acknowledgedClaim digests second init (.resolve peerAnswers false) = some granted ∧
      s'.disk.activityOwnership "alice" = none) := by
  constructor
  · obtain ⟨s, hs, hack, s', hs', hdisk⟩ :
        ∃ s ∈ run (durableStep digests second) init [.observe granted false],
          acknowledgedClaim digests second s (.observe granted true) = some granted ∧
          ∃ s' ∈ durableStep digests second s (.observe granted true),
            s'.disk.activityOwnership "alice" = none := by decide +kernel
    exact ⟨s, s', hs, by decide +kernel, hs', hack, hdisk⟩
  · exact ⟨_, rfl, by decide +kernel⟩

end StControl.Agent
