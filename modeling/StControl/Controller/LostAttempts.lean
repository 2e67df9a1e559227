import StControl.Controller.BoundedRetries
import StControl.Controller.Reconcilers

/-!
# Attempts that are lost

A live workflow of the current generation whose nodes are ready and whose rows are in order
(`Listed`) can come to its end by steps of the reconcilers alone, if only because its attempts fail
and are counted (`Listed.canEnd`).  A snapshot that is under recovery is reset first.

What an execution needs of the nodes is `Served`: the nodes are ready, and the data has a path to
its target, at the address of the target or over the relay.
-/

namespace StControl.Controller

open Store Run Transaction Option Table

variable {c : RetryConfig} {e : Execution} {now : Time} {db db' : Db} {id : UUID} {w : Workflow}
variable {expiresAt : Time} {target : Node} {w₂ : Workflow} {operationID : UUID}
  {act : ReconcilerAct}

/-! ## New capabilities -/

abbrev FreshCapability.FreshIn (f : FreshCapability) (t : Table UUID TransferCapability) : Prop :=
  t.get? f.capabilityID = none ∧ ∀ k cap, t.get? k = some cap → cap.tokenHash ≠ f.tokenHash

/-- There are `n` identities that a rotation can still draw. -/
def Supply (t : Table UUID TransferCapability) (n : ℕ) : Prop :=
  ∃ fresh : List FreshCapability, fresh.length = n ∧
    fresh.Pairwise (fun f g => f.capabilityID ≠ g.capabilityID ∧ f.tokenHash ≠ g.tokenHash) ∧
    ∀ f ∈ fresh, f.FreshIn t

variable {t : Table UUID TransferCapability} {f : FreshCapability} {n : ℕ} {w₁ : Workflow}

lemma FreshCapability.FreshIn.revoke (h : f.FreshIn t) : f.FreshIn (revokeCapabilities t id) := by
  refine ⟨?_, fun k cap hcap => ?_⟩
  · rw [revokeCapabilities, get?_update, h.1]
    rfl
  · rw [revokeCapabilities, get?_update] at hcap
    obtain ⟨before, hbefore, rfl⟩ := map_eq_some_iff.mp hcap
    split <;> exact h.2 k before hbefore

lemma Supply.revoke (h : Supply t n) : Supply (revokeCapabilities t id) n := by
  obtain ⟨fresh, hlength, hpairwise, hfresh⟩ := h
  exact ⟨fresh, hlength, hpairwise, fun f hf => (hfresh f hf).revoke⟩

/-- The identity is drawn for a workflow, and `n` others are still new, whether it is used or
not. -/
structure Drawn (f : FreshCapability) (id : UUID) (t : Table UUID TransferCapability) (n : ℕ) :
    Prop where
  fresh : f.FreshIn t
  unused : Supply t n
  used : ∀ cap : TransferCapability, cap.tokenHash = f.tokenHash →
    Supply ((revokeCapabilities t id).put f.capabilityID cap) n

lemma Supply.draw (h : Supply t (n + 1)) (id : UUID) : ∃ f, Drawn f id t n := by
  obtain ⟨fresh, hlength, hpairwise, hfresh⟩ := h
  cases fresh with
  | nil => cases hlength
  | cons f fresh =>
    obtain ⟨hothers, hpairwise⟩ := List.pairwise_cons.mp hpairwise
    have hlength : fresh.length = n := Nat.succ.inj hlength
    have hrest : ∀ g ∈ fresh, g.FreshIn t := fun g hg => hfresh g (List.mem_cons_of_mem f hg)
    refine ⟨f, hfresh f List.mem_cons_self, ⟨fresh, hlength, hpairwise, hrest⟩,
      fun cap hcap => ⟨fresh, hlength, hpairwise, fun g hg => ?_⟩⟩
    have hrevoked : g.FreshIn (revokeCapabilities t id) := (hrest g hg).revoke
    refine ⟨?_, fun k cap' hcap' => ?_⟩
    · rw [get?_put_of_ne (Ne.symm (hothers g hg).1)]
      exact hrevoked.1
    · obtain ⟨-, rfl⟩ | hcap' := of_get?_put hcap'
      · rw [hcap]
        exact (hothers g hg).2
      · exact hrevoked.2 k cap' hcap'

/-! ## Prepared capabilities -/

lemma count_revokeCapabilities :
    (revokeCapabilities t id).count (fun _ cap => cap.workflowID = id && cap.state = .prepared) =
      0 := by
  refine count_eq_zero.mpr fun k cap hcap => ?_
  rw [revokeCapabilities, get?_update] at hcap
  obtain ⟨before, -, rfl⟩ := map_eq_some_iff.mp hcap
  split
  · simp
  next hother => simpa using hother

def rotated (id : UUID) (snapshotID : UUID) (generation : ℤ) (f : FreshCapability)
    (expiresAt : Time) (db : Db) : Db :=
  { db with
    capabilities := (revokeCapabilities db.capabilities id).put f.capabilityID
      (newCapability id snapshotID f.tokenHash generation expiresAt) }

lemma preparedCapabilities_rotated {snapshotID : UUID} {generation : ℤ}
    (hfresh : f.FreshIn db.capabilities) :
    (rotated id snapshotID generation f expiresAt db).preparedCapabilities id = 1 := by
  have hrevoked : f.FreshIn (revokeCapabilities db.capabilities id) := hfresh.revoke
  rw [Db.preparedCapabilities, rotated, count_put_of_fresh hrevoked.1, count_revokeCapabilities]
  simp [newCapability]

lemma step_rotateSnapshotCapability (hexpires : now < expiresAt)
    (hw : db.workflows.get? id = some w) (hlive : w.state.live) (hcurrent : db.isCurrent w)
    (hsnapshot : (workflowSnapshot db id).isSome) (hfresh : f.FreshIn db.capabilities) :
    ∃ snapshotID, step db (.rotateSnapshotCapability id f.capabilityID f.tokenHash expiresAt now) =
      some (rotated id snapshotID w.controllerGeneration f expiresAt db) := by
  rw [workflowSnapshot, isSome_map] at hsnapshot
  obtain ⟨⟨snapshotID, manifest⟩, hmanifest⟩ := isSome_iff_exists.mp hsnapshot
  refine ⟨snapshotID, ?_⟩
  rw [step_eq_some, Act.transaction, rotateSnapshotCapability]
  refine ok_require hexpires (ok_need hw (ok_need hmanifest (ok_require ⟨hcurrent, hlive⟩
    (ok_require ⟨?_, ?_⟩ rfl))))
  · rw [hfresh.1]
    rfl
  · exact Table.all_eq_true.mpr fun k cap hcap => by simpa using hfresh.2 k cap hcap

lemma preparedCapability_of_count (h : db.preparedCapabilities id ≠ 0) :
    ∃ cap, preparedCapability db id = some cap := by
  refine isSome_iff_exists.mp ?_
  rw [preparedCapability, isSome_map, isSome_find?]
  by_contra hnone
  refine h (count_eq_zero.mpr fun k cap hcap => ?_)
  by_contra hprepared
  exact hnone ⟨k, cap, hcap, by simpa using hprepared⟩

lemma capabilityDue_eq_false {latest : Time} (h : capabilityDue db id latest = false) :
    db.preparedCapabilities id ≠ 0 := by
  intro hzero
  have hnone : db.capabilities.find?
      (fun _ cap => cap.workflowID = id && cap.state = .prepared) = none := by
    rw [← not_isSome_iff_eq_none, isSome_find?]
    rintro ⟨k, cap, hcap, hprepared⟩
    simp [count_eq_zero.mp hzero k cap hcap] at hprepared
  simp [capabilityDue, preparedCapability, hnone] at h

/-! ## Claims -/

def claimedRow (w : Workflow) : Workflow :=
  if w.state = .retryWait then
    { w with
      state := w.workflowType.resumeState, resumeState := none, nextAttemptAt := none
      errorCode := none }
  else w

lemma claimedRow_type (w : Workflow) : (claimedRow w).workflowType = w.workflowType := by
  unfold claimedRow
  split <;> rfl

def Resumable (w : Workflow) : Prop :=
  w.state = .retryWait →
    w.resumeState = some w.workflowType.resumeState ∧ ∃ t, w.nextAttemptAt = some t

def Due (w : Workflow) (now : Time) : Prop := ∀ t, w.nextAttemptAt = some t → t ≤ now

lemma exists_due (w : Workflow) : ∃ now, Due w now := by
  refine ⟨w.nextAttemptAt.getD 0, fun t ht => ?_⟩
  rw [ht]
  exact Int.le_refl _

lemma claimWorkflow_of_current (hw : db.workflows.get? id = some w) (hlive : w.state.live)
    (hcurrent : db.isCurrent w) (hresumable : Resumable w) (hdue : Due w now) :
    ∃ t, claimWorkflow id now db = some { db with workflows := t } ∧
      t.get? id = some (claimedRow w) := by
  have hclaimable : claimable db now w := by
    cases hnext : w.nextAttemptAt with
    | none => simp [claimable, hlive, hcurrent, hnext]
    | some t => simp [claimable, hlive, hcurrent, hnext, hdue t hnext]
  by_cases hwaits : w.state = .retryWait
  · obtain ⟨hresume, t, hnext⟩ := hresumable hwaits
    have hresumed : step db (.resumeSnapshotRetry id now) = some { db with
        workflows := db.workflows.put id (claimedRow w) } := by
      rw [step_eq_some, Act.transaction, resumeSnapshotRetry, claimedRow, if_pos hwaits]
      exact ok_need hw (ok_require ⟨hwaits, by simp [hnext, hdue t hnext]⟩ (ok_need hresume rfl))
    refine ⟨db.workflows.put id (claimedRow w), ?_, get?_put_self ..⟩
    simp only [claimWorkflow, hw, bind_eq_bind, bind_some, if_pos hclaimable, if_pos hwaits,
      hresumed]
  · refine ⟨db.workflows, ?_, by rw [hw, claimedRow, if_neg hwaits]⟩
    simp only [claimWorkflow, hw, bind_eq_bind, bind_some, if_pos hclaimable, if_neg hwaits]

def countedAttempts (w : Workflow) : ℤ :=
  match w.workflowType with
  | .restore => w.attempt
  | .snapshot | .conflictResolution => w.attempt - w.generationRecoveries

def remaining (c : RetryConfig) (w : Workflow) : ℕ :=
  (c.maxAttempts w.workflowType - countedAttempts w).toNat

lemma remaining_claimedRow (c : RetryConfig) (w : Workflow) :
    remaining c (claimedRow w) = remaining c w := by
  unfold claimedRow
  split <;> rfl

structure Execution.ReadFrom (e : Execution) (id : UUID) (w : Workflow) : Prop where
  workflowID : e.workflowID = id
  type : e.workflowType = w.workflowType
  counted : w.attempt - e.uncounted = countedAttempts w
  attempt : e.attempt = w.attempt
  recoveries : e.generationRecoveries = w.generationRecoveries
  job : e.workflowType = .snapshot ∨ e.jobID = none

lemma readFrom_of_loadExecution (hw : db.workflows.get? id = some w)
    (hjob : (executionJob db id w.workflowType).isSome) :
    ∃ e, loadExecution id db = some e ∧ e.ReadFrom id w := by
  obtain ⟨jobID, hjobID⟩ := isSome_iff_exists.mp hjob
  refine ⟨{
    workflowID := id, workflowType := w.workflowType, attempt := w.attempt
    generationRecoveries := w.generationRecoveries
    jobID }, ?_, ?_⟩
  · simp only [loadExecution, hw, hjobID, bind_eq_bind, bind_some, pure_def]
  · refine ⟨rfl, rfl, ?_, rfl, rfl, snapshot_or_jobless hjobID⟩
    dsimp only [Execution.uncounted, countedAttempts]
    cases w.workflowType with
    | snapshot | conflictResolution => rfl
    | restore => exact Int.sub_zero _

/-! ## What an execution finds -/

abbrev AccountUsable (accounts : Table NodeID NodeAccount) (node : NodeID) : Prop :=
  ∃ account, accounts.get? node = some account ∧
    (account.status = .active ∨ account.status = .pending)

/-- A snapshot has its manifest, both nodes are ready for it, and its data has a path. -/
@[mk_iff]
structure SnapshotServed (c : RetryConfig) (db : Db) (id : UUID) (w : Workflow) : Prop where
  manifest : (workflowSnapshot db id).isSome
  source : ∃ source, db.nodes.get? w.sourceNodeID = some source ∧
    snapshotSourceReady source w.mode
  target : ∃ target, db.nodes.get? w.targetNodeID = some target ∧ snapshotNodeReady target ∧
    c.dataPath w target ∧ (target.role = .compute → AccountUsable db.accounts w.targetNodeID)

instance : Decidable (SnapshotServed c db id w) := decidable_of_iff _ (snapshotServed_iff ..).symm

/-- A restore has its manifest, goes from a storage node to a compute node, and has an account
there. -/
@[mk_iff]
structure RestoreServed (db : Db) (id : UUID) (w : Workflow) : Prop where
  manifest : (workflowSnapshot db id).isSome
  nodes : ((db.nodes.get? w.sourceNodeID).any (fun n => n.role = .storage) &&
    (db.nodes.get? w.targetNodeID).any (fun n => n.role = .compute && n.transferURL ≠ ""))
  account : AccountUsable db.accounts w.targetNodeID

instance : Decidable (RestoreServed db id w) := decidable_of_iff _ (restoreServed_iff ..).symm

/-- The base of a resolution and the sources that it still has to read are ready, and the evidence
has a path to the base. -/
def ResolutionServed (c : RetryConfig) (db : Db) (id : UUID) : Prop :=
  ∃ operationID operation base, db.resolutionOf id = some (operationID, operation) ∧
    db.nodes.get? operation.baseNodeID = some base ∧ base.role = .compute ∧
    (base.transferURL = "" && !c.relayAvailable) = false ∧ snapshotNodeReady base ∧
    ((pendingSources operation).all fun node =>
      (db.nodes.get? node).any fun n => snapshotNodeReady n && delivers n base)

structure Served (c : RetryConfig) (db : Db) (id : UUID) (w : Workflow) : Prop where
  job : (executionJob db id w.workflowType).isSome
  snapshot : w.workflowType = .snapshot → SnapshotServed c db id w
  restore : w.workflowType = .restore → RestoreServed db id w
  resolution : w.workflowType = .conflictResolution → ResolutionServed c db id

lemma Served.move (h : Served c db id w) (workflows : Table UUID Workflow)
    (capabilities : Table UUID TransferCapability) (state : WorkflowState)
    (resumeState : Option WorkflowState) (controllerGeneration attempt generationRecoveries : ℤ)
    (nextAttemptAt : Option Time) (errorCode : Option WorkflowErrorCode) :
    Served c { db with workflows, capabilities } id { w with
      state, resumeState, controllerGeneration, attempt, generationRecoveries, nextAttemptAt,
      errorCode } :=
  { h with
    snapshot := fun htype => ⟨(h.snapshot htype).manifest, (h.snapshot htype).source,
      (h.snapshot htype).target⟩
    restore := fun htype => ⟨(h.restore htype).manifest, (h.restore htype).nodes,
      (h.restore htype).account⟩ }

structure UnderWay (c : RetryConfig) (e : Execution) (db : Db) (id : UUID) (w : Workflow) :
    Prop where
  row : db.workflows.get? id = some w
  live : w.state.live
  awake : w.state ≠ .retryWait
  current : db.isCurrent w
  served : Served c db id w
  readFrom : e.ReadFrom id w

section

variable (h : UnderWay c e db id w)
include h

lemma UnderWay.move (state : WorkflowState) (nextAttemptAt : Option Time)
    (errorCode : Option WorkflowErrorCode) (hlive : state.live) (hawake : state ≠ .retryWait) :
    UnderWay c e { db with
      workflows := db.workflows.put id { w with state, nextAttemptAt, errorCode } } id
      { w with state, nextAttemptAt, errorCode } where
  row := get?_put_self ..
  live := hlive
  awake := hawake
  current := h.current
  served := h.served.move _ _ ..
  readFrom := ⟨h.readFrom.workflowID, h.readFrom.type, h.readFrom.counted, h.readFrom.attempt,
    h.readFrom.recoveries, h.readFrom.job⟩

lemma UnderWay.rotate (snapshotID : UUID) (generation : ℤ) (f : FreshCapability)
    (expiresAt : Time) :
    UnderWay c e (rotated id snapshotID generation f expiresAt db) id w :=
  { h with served := h.served.move _ _ .. }

lemma UnderWay.provision (haccount : AccountUsable db.accounts w.targetNodeID) :
    ∃ accounts, provisionTarget w true db = some { db with accounts } ∧
      UnderWay c e { db with accounts } id w := by
  obtain ⟨account, haccount, hstatus⟩ := haccount
  by_cases hactive : account.status = .active
  · refine ⟨db.accounts, ?_, h⟩
    simp only [provisionTarget, haccount, if_pos hactive]
  have hpending : account.status = .pending := hstatus.resolve_left hactive
  refine ⟨db.accounts.put w.targetNodeID { account with status := .active }, ?_, ?_⟩
  · simp only [provisionTarget, haccount, hpending, and_self, if_true]
    rfl
  · have husable : AccountUsable (db.accounts.put w.targetNodeID { account with
        status := .active }) w.targetNodeID :=
      ⟨_, get?_put_self .., .inl rfl⟩
    refine ⟨h.row, h.live, h.awake, h.current, ⟨h.served.job, fun htype => ?_, fun htype => ?_,
      h.served.resolution⟩, h.readFrom⟩
    · obtain ⟨target, htarget, hready, hpath, -⟩ := (h.served.snapshot htype).target
      exact ⟨(h.served.snapshot htype).manifest, (h.served.snapshot htype).source, target,
        htarget, hready, hpath, fun _ => husable⟩
    · exact ⟨(h.served.restore htype).manifest, (h.served.restore htype).nodes, husable⟩

/-! ## The end of an attempt -/

lemma UnderWay.operation : (e.workflowType = .restore → (db.restoreOperation e.workflowID).isSome) ∧
      (e.workflowType = .conflictResolution → (db.resolutionOf e.workflowID).isSome) := by
  have hjob := h.served.job
  rw [← h.readFrom.type, ← h.readFrom.workflowID] at hjob
  constructor <;>
  · intro htype
    rwa [htype, executionJob, isSome_map] at hjob

lemma UnderWay.retry
    (hcapability : w.workflowType = .conflictResolution ∨ db.preparedCapabilities id = 1) :
    Ended id (retryWorkflow c e now db) ∨ ∃ t, retryWorkflow c e now db = putOff id w t db ∧
        countedAttempts w + 1 < c.maxAttempts w.workflowType := by
  obtain rfl := h.readFrom.workflowID
  by_cases haborted : e.aborted db
  · have hsnapshot : e.workflowType = .snapshot := by
      refine h.readFrom.job.resolve_right fun hnone => ?_
      simp [Execution.aborted, hnone] at haborted
    exact .inl (ended_of_aborted c h.row (h.readFrom.type.symm.trans hsnapshot) h.live haborted)
  have haccepted : retryAccepted db e.workflowID w := ⟨⟨h.live, h.awake⟩, hcapability⟩
  have hrow : (putOff e.workflowID w (now + c.retryDelay (e.attempt - e.uncounted).toNat)
      db).workflows.get? e.workflowID = some { w with
        state := .retryWait
        resumeState := some w.workflowType.resumeState
        attempt := w.attempt + 1
        nextAttemptAt := some (now + c.retryDelay (e.attempt - e.uncounted).toNat)
        errorCode := some .other } :=
    get?_put_self ..
  rw [retryWorkflow, if_neg haborted,
    step_scheduleSnapshotRetry now (retryDelay_pos c _) h.row haccepted]
  dsimp only
  have hcounted := h.readFrom.counted
  split
  · exact .inl (ended_of_failure hrow h.readFrom.type.symm rfl h.operation.1 h.operation.2)
  next hlimit =>
    rw [hrow, h.readFrom.type] at hlimit
    simp only [any_some, decide_eq_true_eq] at hlimit
    exact .inr ⟨_, rfl, by omega⟩

end

def WorkflowState.canRotate (type : WorkflowType) (state : WorkflowState) : Bool :=
  match type with
  | .snapshot => state = .scheduled || state = .quiescing || state = .retryWait
  | .restore => state ≠ .publishing
  | .conflictResolution => true

def CapabilityReady (db : Db) (id : UUID) (w : Workflow) : Prop :=
  w.workflowType = .conflictResolution ∨ db.preparedCapabilities id = 1 ∨
    db.preparedCapabilities id = 0 ∧ WorkflowState.canRotate w.workflowType w.state

lemma CapabilityReady.claimed {t : Table UUID Workflow} (h : CapabilityReady db id w) :
    CapabilityReady { db with workflows := t } id (claimedRow w) := by
  rcases h with hresolution | hone | ⟨hzero, hrotate⟩
  · exact .inl ((claimedRow_type w).trans hresolution)
  · exact .inr (.inl hone)
  refine .inr (.inr ⟨hzero, ?_⟩)
  unfold claimedRow
  split
  · cases w.workflowType <;> rfl
  · exact hrotate

structure Listed (c : RetryConfig) (db : Db) (id : UUID) (w : Workflow) : Prop where
  row : db.workflows.get? id = some w
  live : w.state.live
  current : db.isCurrent w
  served : Served c db id w
  resumable : Resumable w
  capability : CapabilityReady db id w

structure Startable (c : RetryConfig) (db : Db) (id : UUID) (w : Workflow) : Prop
    extends Listed c db id w where
  settled : w.workflowType = .snapshot → w.state ≠ .retryWait →
    w.errorCode ≠ some .controllerGenerationRecovery

/-- An attempt is lost: the workflow is over, or it waits for a next attempt that can start, fewer
are left, and there are `n` identities for them. -/
def AttemptLost (c : RetryConfig) (id : UUID) (w : Workflow) (n : ℕ) (db : Db) : Prop :=
  Ended id db ∨ ∃ w', Startable c db id w' ∧ w'.state = .retryWait ∧
    remaining c w' < remaining c w ∧ Supply db.capabilities n

lemma countedAttempts_succ (w : Workflow) (state : WorkflowState)
    (resumeState : Option WorkflowState) (nextAttemptAt : Option Time)
    (errorCode : Option WorkflowErrorCode) : countedAttempts { w with
      state, resumeState, attempt := w.attempt + 1, nextAttemptAt, errorCode } =
      countedAttempts w + 1 := by
  unfold countedAttempts
  cases w.workflowType with
  | snapshot | conflictResolution => dsimp only; omega
  | restore => rfl

lemma UnderWay.startable_putOff (h : UnderWay c e db id w) (t : Time) :
    Startable c (putOff id w t db) id { w with
      state := .retryWait, resumeState := some w.workflowType.resumeState, attempt := w.attempt + 1
      nextAttemptAt := some t, errorCode := some .other } where
  row := get?_put_self ..
  live := rfl
  current := h.current
  served := h.served.move _ _ ..
  resumable := fun _ => ⟨rfl, t, rfl⟩
  capability := by
    cases htype : w.workflowType with
    | conflictResolution => exact .inl rfl
    | snapshot | restore =>
      refine .inr (.inr ⟨?_, rfl⟩)
      simp only [putOff, htype, reduceCtorEq, if_false, Db.preparedCapabilities]
      exact count_revokeCapabilities
  settled := fun _ hwaits => absurd rfl hwaits

lemma Supply.putOff (h : Supply db.capabilities n) (t : Time) :
    Supply (putOff id w t db).capabilities n := by
  unfold Controller.putOff
  split
  · exact h
  · exact h.revoke

lemma UnderWay.lost (h : UnderWay c e db id w₁)
    (hcapability : w₁.workflowType = .conflictResolution ∨ db.preparedCapabilities id = 1)
    (hremaining : remaining c w₁ = remaining c w) (hsupply : Supply db.capabilities n) :
    AttemptLost c id w n (retryWorkflow c e now db) := by
  rcases h.retry hcapability with hended | ⟨t, hputOff, hlimit⟩
  · exact .inl hended
  rw [hputOff]
  refine .inr ⟨_, h.startable_putOff t, rfl, ?_, hsupply.putOff t⟩
  rw [← hremaining]
  unfold remaining
  rw [countedAttempts_succ]
  dsimp only
  omega

lemma Served.claim (hw : db.workflows.get? id = some w) (hlive : w.state.live)
    (hcurrent : db.isCurrent w) (h : Served c db id w) (hresumable : Resumable w)
    (hdue : Due w now) :
    ∃ e t, claimWorkflow id now db = some { db with workflows := t } ∧
      loadExecution id { db with workflows := t } = some e ∧
      UnderWay c e { db with workflows := t } id (claimedRow w) := by
  obtain ⟨t, hclaim, hrow⟩ := claimWorkflow_of_current hw hlive hcurrent hresumable hdue
  have hserved : Served c { db with workflows := t } id (claimedRow w) := by
    unfold claimedRow
    split
    · exact h.move ..
    · exact h.move t ..
  have hclaimed : ({ db with workflows := t } : Db).workflows.get? id = some (claimedRow w) := hrow
  obtain ⟨e, hload, hread⟩ := readFrom_of_loadExecution hclaimed hserved.job
  refine ⟨e, t, hclaim, hload, ⟨hrow, ?_, ?_, ?_, hserved, hread⟩⟩
  · unfold claimedRow
    split
    · dsimp only; cases w.workflowType <;> rfl
    · exact hlive
  · unfold claimedRow
    split
    · dsimp only; cases w.workflowType <;> decide
    next hawake => exact hawake
  · have hgeneration : (claimedRow w).controllerGeneration = w.controllerGeneration := by
      unfold claimedRow
      split <;> rfl
    rw [Db.isCurrent, hgeneration]
    exact hcurrent

lemma Listed.claim (h : Listed c db id w) :
    ∃ now e claimed, claimWorkflow id now db = some claimed ∧ loadExecution id claimed = some e ∧
      UnderWay c e claimed id (claimedRow w) ∧ CapabilityReady claimed id (claimedRow w) ∧
      claimed.capabilities = db.capabilities := by
  obtain ⟨now, hdue⟩ := exists_due w
  obtain ⟨e, t, hclaim, hload, hunder⟩ :=
    h.served.claim h.row h.live h.current h.resumable hdue
  exact ⟨now, e, _, hclaim, hload, hunder, h.capability.claimed, rfl⟩

/-! ## Snapshots -/

def unpreparedSnapshot (f : FreshCapability) : SnapshotAnswers where
  provisioned := true
  receipt := some none
  capability := f
  prepared := false
  progress := []
  transferred := none
  origin := .configured
  cleanupID := 0

lemma UnderWay.start (h : UnderWay c e db id w) (hscheduled : w.state = .scheduled) :
    perform db (.startSnapshotWorkflow id) = { db with
      workflows := db.workflows.put id { w with state := .quiescing } } := by
  have hstep : step db (.startSnapshotWorkflow id) = some { db with
      workflows := db.workflows.put id { w with state := .quiescing } } := by
    rw [step_eq_some, Act.transaction, setSnapshotWorkflowState]
    exact ok_need h.row (ok_require ⟨hscheduled, h.current⟩ rfl)
  rw [perform, hstep, getD_some]

lemma transferSnapshot_unprepared (c : RetryConfig) (f : FreshCapability) (e : Execution)
    (w : Workflow) (target : Node) (now : Time) (db : Db) :
    transferSnapshot c (unpreparedSnapshot f) e w target now db = retryWorkflow c e now db := by
  simp [transferSnapshot, unpreparedSnapshot]

section

variable (h : UnderWay c e db id w₁) (htype : w₁.workflowType = .snapshot)
  (hremaining : remaining c w₁ = remaining c w) (hdrawn : Drawn f id db.capabilities n)
include h htype hremaining hdrawn

lemma quiescing_lost (hprepared : db.preparedCapabilities id ≠ 0 → db.preparedCapabilities id = 1) :
    AttemptLost c id w n (if capabilityDue db id (now + 120 * c.second) then
        match step db (.rotateSnapshotCapability id f.capabilityID f.tokenHash
            (now + 28800 * c.second) now) with
        | some rotated => transferSnapshot c (unpreparedSnapshot f) e w₂ target now rotated
        | none => retryWorkflow c e now db
      else transferSnapshot c (unpreparedSnapshot f) e w₂ target now db) := by
  have hexpires : now < now + 28800 * c.second :=
    Int.lt_add_of_pos_right _ (Int.mul_pos (by decide) c.second_pos)
  cases hdue : capabilityDue db id (now + 120 * c.second) with
  | true =>
    obtain ⟨snapshotID, hstep⟩ := step_rotateSnapshotCapability hexpires h.row h.live h.current
      (h.served.snapshot htype).manifest hdrawn.fresh
    rw [if_pos rfl, hstep]
    exact (h.rotate ..).lost (.inr (preparedCapabilities_rotated hdrawn.fresh)) hremaining
      (hdrawn.used _ rfl)
  | false => exact h.lost (.inr (hprepared (capabilityDue_eq_false hdue))) hremaining hdrawn.unused

lemma carryOutSnapshot_lost (hcapability : CapabilityReady db id w₁)
    (hstate : w₂.state = w₁.state) :
    AttemptLost c id w n (carryOutSnapshot c (unpreparedSnapshot f) e w₂ target now db) := by
  obtain rfl := h.readFrom.workflowID
  have hready : db.preparedCapabilities e.workflowID = 1 ∨
      db.preparedCapabilities e.workflowID = 0 ∧
      (w₁.state = .scheduled ∨ w₁.state = .quiescing) := by
    rcases hcapability.resolve_left (by simp [htype]) with hone | ⟨hzero, hrotate⟩
    · exact .inl hone
    · simp only [WorkflowState.canRotate, htype, Bool.or_eq_true,
        decide_eq_true_eq] at hrotate
      exact .inr ⟨hzero, hrotate.resolve_right h.awake⟩
  have hprepared : db.preparedCapabilities e.workflowID ≠ 0 →
      db.preparedCapabilities e.workflowID = 1 := fun hnone =>
    hready.resolve_right fun hzero => hnone hzero.1
  unfold carryOutSnapshot
  rw [hstate]
  by_cases hscheduled : w₁.state = .scheduled
  · simp only [if_pos hscheduled, h.start hscheduled, reduceCtorEq, if_false, if_true]
    exact quiescing_lost (h.move .quiescing _ _ rfl (by decide)) htype hremaining hdrawn hprepared
  simp only [if_neg hscheduled]
  by_cases hquiescing : w₁.state = .quiescing
  · simp only [hquiescing, reduceCtorEq, if_false, if_true]
    exact quiescing_lost h htype hremaining hdrawn hprepared
  -- any later state has its capability
  have hone : db.preparedCapabilities e.workflowID = 1 := by
    refine hready.resolve_right ?_
    rintro ⟨-, hs | hs⟩
    · exact hscheduled hs
    · exact hquiescing hs
  have hlost : AttemptLost c e.workflowID w n (retryWorkflow c e now db) :=
    h.lost (.inr hone) hremaining hdrawn.unused
  split
  · exact hlost
  · simp only [transferSnapshot_unprepared, ite_self]
    exact hlost

end

lemma UnderWay.clear (h : UnderWay c e db id w) (htype : w.workflowType = .snapshot) :
    ∃ nextAttemptAt errorCode t,
      (if w.errorCode = some .nodeNotReady then perform db (.clearSnapshotWorkflowDeferral id)
        else db) = { db with workflows := t } ∧
      UnderWay c e { db with workflows := t } id { w with nextAttemptAt, errorCode } := by
  by_cases hdeferred : w.errorCode = some .nodeNotReady
  · refine ⟨none, none, _, ?_, h.move w.state none none h.live h.awake⟩
    rw [if_pos hdeferred]
    refine perform_of_ok ?_
    exact ok_need h.row (ok_require ⟨htype, hdeferred, h.current⟩ rfl)
  · exact ⟨w.nextAttemptAt, w.errorCode, db.workflows, if_neg hdeferred, h⟩

lemma Startable.snapshot_lost (h : Startable c db id w) (htype : w.workflowType = .snapshot)
    (hsupply : Supply db.capabilities (n + 1)) :
    ∃ a now db', executeSnapshot c id a now db = some db' ∧ AttemptLost c id w n db' := by
  obtain ⟨f, hdrawn⟩ := hsupply.draw id
  obtain ⟨now, e, claimed, hclaim, hload, hunder, hready, hcapabilities⟩ := h.claim
  rw [← hcapabilities] at hdrawn
  have hclaimedType := (claimedRow_type w).trans htype
  have hserved := hunder.served.snapshot hclaimedType
  obtain ⟨source, hsource, hsourceReady⟩ := hserved.source
  obtain ⟨target, htarget, htargetReady, hpath, haccount⟩ := hserved.target
  have hsettled : (claimedRow w).errorCode ≠ some .controllerGenerationRecovery := by
    unfold claimedRow
    split
    · exact nofun
    next hawake => exact h.settled htype hawake
  obtain ⟨nextAttemptAt, errorCode, t, hclear, hcleared⟩ := hunder.clear hclaimedType
  have hclearedReady : CapabilityReady { claimed with workflows := t } id
      { claimedRow w with nextAttemptAt, errorCode } := hready
  refine ⟨unpreparedSnapshot f, now, ?_⟩
  simp only [executeSnapshot, hclaim, hload, hunder.row, bind_eq_bind, bind_some,
    hclaimedType, hsource, htarget, htargetReady, hsourceReady, hpath, ne_eq,
    not_true_eq_false, if_false, if_neg hsettled, hclear, unpreparedSnapshot, Bool.true_eq_false]
  split
  next hcompute =>
    obtain ⟨accounts, hprovision, hprovisioned⟩ := hcleared.provision (haccount hcompute)
    have hprovision' : provisionTarget (claimedRow w) true { claimed with workflows := t } =
      some { claimed with workflows := t, accounts } := hprovision
    rw [hprovision']
    exact ⟨_, rfl, carryOutSnapshot_lost hprovisioned hclaimedType (remaining_claimedRow c w)
      hdrawn hclearedReady rfl⟩
  · exact ⟨_, rfl, carryOutSnapshot_lost hcleared hclaimedType (remaining_claimedRow c w)
      hdrawn hclearedReady rfl⟩

/-! ## Restores and conflict resolutions -/

def unpreparedRestore (f : FreshCapability) : RestoreAnswers where
  provisioned := true
  receipt := none
  capability := f
  prepared := false
  progress := []
  transferred := none
  definitive := false
  nextCapability := f

lemma transferRestore_unprepared (c : RetryConfig) (f : FreshCapability) (e : Execution)
    (w : Workflow) (now : Time) (db : Db) :
    transferRestore c (unpreparedRestore f) e w now db = retryWorkflow c e now db := by
  simp [transferRestore, unpreparedRestore]

lemma carryOutRestore_lost (h : UnderWay c e db id w₁) (htype : w₁.workflowType = .restore)
    (hremaining : remaining c w₁ = remaining c w) (hcapability : CapabilityReady db id w₁)
    (hdrawn : Drawn f id db.capabilities n) :
    AttemptLost c id w n (carryOutRestore c (unpreparedRestore f) e w₁ now db) := by
  obtain rfl := h.readFrom.workflowID
  have hexpires : now < now + 900 * c.second :=
    Int.lt_add_of_pos_right _ (Int.mul_pos (by decide) c.second_pos)
  obtain ⟨accounts, hprovision, hprovisioned⟩ := h.provision (h.served.restore htype).account
  have hprovision' : provisionTarget w₁ (unpreparedRestore f).provisioned db =
      some { db with accounts } := hprovision
  simp only [carryOutRestore, hprovision', transferRestore_unprepared]
  cases hdue : capabilityDue { db with accounts } e.workflowID now with
  | true =>
    obtain ⟨snapshotID, hstep⟩ := step_rotateSnapshotCapability hexpires hprovisioned.row
      hprovisioned.live hprovisioned.current (hprovisioned.served.restore htype).manifest
      hdrawn.fresh
    have hrotate : rotateRestoreCapability c e now (unpreparedRestore f).capability
        { db with accounts } = some (rotated e.workflowID snapshotID w₁.controllerGeneration f
          (now + 900 * c.second) { db with accounts }) := hstep
    rw [if_pos rfl, hrotate]
    exact (hprovisioned.rotate ..).lost (.inr (preparedCapabilities_rotated hdrawn.fresh))
      hremaining (hdrawn.used _ rfl)
  | false =>
    have hone : db.preparedCapabilities e.workflowID = 1 := by
      rcases hcapability.resolve_left (by simp [htype]) with hone | ⟨hzero, -⟩
      · exact hone
      · exact absurd hzero (capabilityDue_eq_false hdue)
    exact hprovisioned.lost (.inr hone) hremaining hdrawn.unused

lemma Startable.restore_lost (h : Startable c db id w) (htype : w.workflowType = .restore)
    (hsupply : Supply db.capabilities (n + 1)) :
    ∃ a now db', executeRestore c id a now db = some db' ∧ AttemptLost c id w n db' := by
  obtain ⟨f, hdrawn⟩ := hsupply.draw id
  obtain ⟨now, e, claimed, hclaim, hload, hunder, hready, hcapabilities⟩ := h.claim
  rw [← hcapabilities] at hdrawn
  have hclaimedType := (claimedRow_type w).trans htype
  refine ⟨unpreparedRestore f, now, ?_⟩
  simp only [executeRestore, hclaim, hload, hunder.row, bind_eq_bind, bind_some,
    hclaimedType, ne_eq, not_true_eq_false, if_false]
  rw [if_pos (hunder.served.restore hclaimedType).nodes]
  split
  next hpublishing =>
    refine ⟨_, rfl, hunder.lost (.inr ?_) (remaining_claimedRow c w) hdrawn.unused⟩
    rcases hready.resolve_left (by simp [hclaimedType]) with hone | ⟨-, hrotate⟩
    · exact hone
    · simp [WorkflowState.canRotate, hclaimedType, hpublishing] at hrotate
  · exact ⟨_, rfl, carryOutRestore_lost hunder hclaimedType (remaining_claimedRow c w)
      hready hdrawn⟩

def unpreparedResolution : ResolutionAnswers where
  transferred := fun _ => false
  prepared := false
  published := none

section

variable {operation : ResolutionOperation} (h : UnderWay c e db id w)
  (htype : w.workflowType = .conflictResolution)
  (hoperation : db.resolutionOf id = some (operationID, operation))
include h htype hoperation

lemma UnderWay.rotateTransfer {node : NodeID} (hnode : node ∈ pendingSources operation) :
    UnderWay c e { db with
      resolutions := db.resolutions.put operationID { operation with
        transfers := operation.transfers.put node .prepared } } id w := by
  obtain ⟨operationID', operation', base, hoperation', hbase, hrole, hpath, hready, hsources⟩ :=
    h.served.resolution htype
  rw [hoperation] at hoperation'
  obtain ⟨rfl, rfl⟩ := Prod.mk.inj (some.inj hoperation')
  have hlinked : operation.workflowID = id := by simpa using (of_find?_eq_some hoperation).2
  have hfound : (db.resolutions.put operationID { operation with
      transfers := operation.transfers.put node .prepared }).find?
        (fun _ o => o.workflowID = id) = some (operationID, { operation with
          transfers := operation.transfers.put node .prepared }) :=
    find?_put_self (by simpa using hlinked)
  refine ⟨h.row, h.live, h.awake, h.current, ⟨?_, ?_, ?_, fun _ => ?_⟩, h.readFrom⟩
  · rw [htype, executionJob, isSome_map, Db.resolutionOf, hfound]
    rfl
  · rw [htype]
    exact nofun
  · rw [htype]
    exact nofun
  · refine ⟨operationID, _, base, hfound, hbase, hrole, hpath, hready, ?_⟩
    -- what is pending after the rotation was pending before
    rw [List.all_eq_true] at hsources ⊢
    intro source hsource
    obtain ⟨transfer, htransfer, hunconsumed⟩ := mem_pendingSources.mp hsource
    obtain ⟨heq, -⟩ | htransfer := of_get?_put htransfer
    · exact hsources source (heq ▸ hnode)
    · exact hsources source (mem_pendingSources.mpr ⟨transfer, htransfer, hunconsumed⟩)

lemma UnderWay.received :
    UnderWay c e (transferEvidence operationID (fun _ => false) (pendingSources operation)
      db).1 id w ∧
      (transferEvidence operationID (fun _ => false) (pendingSources operation) db).1.capabilities =
        db.capabilities := by
  cases hpending : pendingSources operation with
  | nil => exact ⟨h, rfl⟩
  | cons node nodes =>
    have hnode : node ∈ pendingSources operation := hpending ▸ List.mem_cons_self
    have hfound := (of_find?_eq_some hoperation).1
    unfold transferEvidence transferSource
    by_cases hprepared : transferPrepared db operationID node
    · rw [if_pos hprepared]
      exact ⟨h, rfl⟩
    rw [if_neg hprepared]
    cases hstep : step db (.setResolutionTransfer operationID node false) with
    | none => exact ⟨h, rfl⟩
    | some rotated =>
      have hrotated := step_eq_some.mp hstep
      obtain ⟨operation', hoperation', hrotated⟩ := of_need hrotated
      obtain ⟨w', -, hrotated⟩ := of_need hrotated
      obtain ⟨transfer, -, hrotated⟩ := of_need hrotated
      obtain ⟨-, ⟨⟩⟩ := of_require hrotated
      obtain rfl := mem_unique hfound hoperation'
      exact ⟨h.rotateTransfer htype hoperation hnode, rfl⟩

end

lemma Startable.resolution_lost (h : Startable c db id w)
    (htype : w.workflowType = .conflictResolution) (hsupply : Supply db.capabilities n) :
    ∃ a now db', executeResolution c id a now db = some db' ∧ AttemptLost c id w n db' := by
  obtain ⟨now, e, claimed, hclaim, hload, hunder, -, hcapabilities⟩ := h.claim
  rw [← hcapabilities] at hsupply
  have hclaimedType := (claimedRow_type w).trans htype
  obtain ⟨operationID, operation, base, hoperation, hbase, hrole, hpath, hready, hsources⟩ :=
    hunder.served.resolution hclaimedType
  obtain ⟨hreceived, hkept⟩ := hunder.received hclaimedType hoperation
  rw [← hkept] at hsupply
  refine ⟨unpreparedResolution, now, ?_⟩
  simp only [executeResolution, hclaim, hload, hunder.row, hoperation, bind_eq_bind,
    bind_some, hclaimedType, ne_eq, not_true_eq_false, if_false, hbase,
    hrole, hpath, false_or, unpreparedResolution, Bool.true_eq_false, Bool.false_eq_true, hready,
    hsources, or_true, if_true]
  refine ⟨_, rfl, ?_⟩
  exact hreceived.lost (.inl hclaimedType) (remaining_claimedRow c w) hsupply

/-! ## All attempts -/

def CanEnd (c : RetryConfig) (db : Db) (id : UUID) : Prop :=
  ∃ acts db', run (reconcilerStep c) db acts = some db' ∧ Ended id db'

def CanEndBy (G : Db → ReconcilerAct → Prop) (c : RetryConfig) (db : Db) (id : UUID) : Prop :=
  ∃ acts db', run (reconcilerStep c) db acts = some db' ∧ Meets (reconcilerStep c) G db acts ∧
    Ended id db'

variable {G : Db → ReconcilerAct → Prop}

lemma CanEndBy.canEnd (h : CanEndBy G c db id) : CanEnd c db id := by
  obtain ⟨acts, db', hrun, -, hended⟩ := h
  exact ⟨acts, db', hrun, hended⟩

lemma Ended.canEndBy (h : Ended id db) : CanEndBy G c db id := ⟨[], db, run_nil db, trivial, h⟩

lemma CanEndBy.of_step (hstep : reconcilerStep c db act = some db') (hact : G db act)
    (h : CanEndBy G c db' id) : CanEndBy G c db id := by
  obtain ⟨acts, db'', hrun, hmeets, hended⟩ := h
  refine ⟨act :: acts, db'', run_cons_eq_some.mpr ⟨db', hstep, hrun⟩, ⟨hact, fun t ht => ?_⟩,
    hended⟩
  rw [hstep] at ht
  exact some.inj ht ▸ hmeets

/-- The condition allows every step that is answered, and every step if the workflow is a restore
that is publishing. -/
structure Allows (G : Db → ReconcilerAct → Prop) (w : Workflow) : Prop where
  answered : ∀ db act, act.answered db → G db act
  publishing : w.workflowType = .restore → w.state = .publishing → ∀ db act, G db act

lemma Startable.lost (h : Startable c db id w) (hallows : Allows G w)
    (hsupply : Supply db.capabilities (n + 1)) :
    ∃ act db', reconcilerStep c db act = some db' ∧ G db act ∧ AttemptLost c id w n db' := by
  cases htype : w.workflowType with
  | snapshot =>
    obtain ⟨a, now, db', hstep, hlost⟩ := h.snapshot_lost htype hsupply
    exact ⟨.executeSnapshot id a now, db', hstep, hallows.answered _ _ rfl, hlost⟩
  | restore =>
    obtain ⟨a, now, db', hstep, hlost⟩ := h.restore_lost htype hsupply
    refine ⟨.executeRestore id a now, db', hstep, ?_, hlost⟩
    by_cases hpublishing : w.state = .publishing
    · exact hallows.publishing htype hpublishing _ _
    · exact hallows.answered _ _ (by simp [ReconcilerAct.answered, h.row, hpublishing])
  | conflictResolution =>
    obtain ⟨f, hdrawn⟩ := hsupply.draw id
    obtain ⟨a, now, db', hstep, hlost⟩ := h.resolution_lost htype hdrawn.unused
    exact ⟨.executeResolution id a now, db', hstep, hallows.answered _ _ rfl, hlost⟩

lemma Startable.canEnd (h : Startable c db id w) (hallows : Allows G w)
    (hremaining : remaining c w ≤ n) (hsupply : Supply db.capabilities (n + 1)) :
    CanEndBy G c db id := by
  induction n generalizing db w with
  | zero =>
    obtain ⟨act, db', hstep, hact, hended | ⟨w', -, -, hfewer, -⟩⟩ := h.lost hallows hsupply
    · exact .of_step hstep hact hended.canEndBy
    · omega
  | succ n ih =>
    obtain ⟨act, db', hstep, hact, hended | ⟨w', hstart, hwaits, hfewer, hsupply'⟩⟩ :=
      h.lost hallows hsupply
    · exact .of_step hstep hact hended.canEndBy
    · exact .of_step hstep hact (ih hstart ⟨hallows.answered, fun _ hpublishing => by
        simp [hwaits] at hpublishing⟩ (by omega) hsupply')

/-! ## The first steps after a promotion -/

def adopted (w : Workflow) (generation : ℤ) (now : Time) : Workflow :=
  { w with
    controllerGeneration := generation, errorCode := some .controllerGenerationRecovery
    nextAttemptAt := some now }

lemma reconcilerStep_adoptSnapshot (hw : db.workflows.get? id = some w) (hlive : w.state.live)
    (htype : w.workflowType = .snapshot) (hactive : db.activeGeneration.isSome)
    (hstale : db.isCurrent w = false) (now : Time) :
    ∃ generation, db.isCurrent (adopted w generation now) ∧
      reconcilerStep c db (.adoptSnapshot id now) = some { db with
        workflows := db.workflows.put id (adopted w generation now) } := by
  obtain ⟨generation, hactive⟩ := isSome_iff_exists.mp hactive
  have hother : w.controllerGeneration ≠ generation := by
    rintro rfl
    simp [Db.isCurrent, hactive] at hstale
  refine ⟨generation, by simp [Db.isCurrent, adopted, hactive], ?_⟩
  rw [reconcilerStep, step_eq_some, Act.transaction, adoptStaleSnapshotWorkflow]
  exact ok_need hactive (ok_need hw (ok_require ⟨htype, hlive, hother⟩ rfl))

lemma Served.reset (hw : db.workflows.get? id = some w) (hlive : w.state.live)
    (hcurrent : db.isCurrent w) (h : Served c db id w) (hresumable : Resumable w)
    (htype : w.workflowType = .snapshot) (hmark : w.errorCode = some .controllerGenerationRecovery)
    (hawake : w.state ≠ .retryWait) :
    ∃ now e t, reconcilerStep c db (.executeSnapshot id (unpreparedSnapshot ⟨0, 0⟩) now) =
        some (perform { db with workflows := t } (.resetRecoveredSnapshotWorkflow id now)) ∧
      UnderWay c e { db with workflows := t } id w := by
  obtain ⟨now, hdue⟩ := exists_due w
  obtain ⟨e, t, hclaim, hload, hunder⟩ := h.claim hw hlive hcurrent hresumable hdue
  rw [claimedRow, if_neg hawake] at hunder
  obtain ⟨source, hsource, -⟩ := (h.snapshot htype).source
  obtain ⟨target, htarget, hready, hpath, -⟩ := (h.snapshot htype).target
  refine ⟨now, e, t, ?_, hunder⟩
  have hrow : t.get? id = some w := hunder.row
  simp only [reconcilerStep, executeSnapshot, hclaim, hload, hrow, bind_eq_bind, bind_some,
    htype, hsource, htarget, hready, hpath, ne_eq, not_true_eq_false, if_false, if_true,
    hmark, unpreparedSnapshot, Bool.true_eq_false, recoverSnapshot, ite_self,
    hunder.readFrom.workflowID]

/-- What the reset of a recovered snapshot leaves: the workflow is over, or its next attempt can
start and as many are left as before. -/
def Recovered (c : RetryConfig) (id : UUID) (w : Workflow) (n : ℕ) (db : Db) : Prop :=
  Ended id db ∨ ∃ w', Startable c db id w' ∧ w'.state = .retryWait ∧
    remaining c w' = remaining c w ∧ Supply db.capabilities n

section

variable (htype : w.workflowType = .snapshot)
  (hmark : w.errorCode = some .controllerGenerationRecovery) (hsupply : Supply db.capabilities n)
include htype hmark hsupply

lemma UnderWay.reset (h : UnderWay c e db id w) :
    Commits (resetRecoveredSnapshotWorkflow id now db) (Recovered c id w n) := by
  have hjob := h.served.job
  rw [htype, executionJob, isSome_map] at hjob
  obtain ⟨job, hfound⟩ := isSome_iff_exists.mp hjob
  rw [resetRecoveredSnapshotWorkflow, commits_need_bind]
  refine ⟨w, h.row, commits_need_bind.mpr ⟨job, hfound, commits_require_bind.mpr
    ⟨⟨htype, h.current, hmark, h.live⟩, ?_⟩⟩⟩
  split
  · exact commits_pure.mpr (.inl (ended_of_endWorkflow .cancelled rfl h.row h.live rfl))
  refine commits_pure.mpr (.inr ⟨_, ⟨⟨get?_put_self .., rfl, h.current, ⟨?_, fun _ => ?_,
    fun hrestore => ?_, fun hresolution => ?_⟩, fun _ => ⟨?_, now, rfl⟩, ?_⟩,
    fun _ hawake => absurd rfl hawake⟩, rfl, ?_, hsupply.revoke⟩)
  · rw [htype, executionJob, isSome_map]
    exact isSome_find?_update (f := fun j => { j with status := .pending })
      (fun _ _ => rfl) hjob
  · exact ⟨(h.served.snapshot htype).manifest, (h.served.snapshot htype).source,
      (h.served.snapshot htype).target⟩
  · simp [htype] at hrestore
  · simp [htype] at hresolution
  · rw [htype]
    rfl
  · exact .inr (.inr ⟨count_revokeCapabilities, by simp [WorkflowState.canRotate, htype]⟩)
  · simp only [remaining, countedAttempts, htype]
    congr 1
    omega

lemma Listed.recovered (h : Listed c db id w) (hawake : w.state ≠ .retryWait) :
    ∃ a now db', reconcilerStep c db (.executeSnapshot id a now) = some db' ∧
      Recovered c id w n db' := by
  obtain ⟨now, e, t, hstep, hunder⟩ :=
    h.served.reset h.row h.live h.current h.resumable htype hmark hawake
  exact ⟨_, now, _, hstep, perform_of_commits (hunder.reset htype hmark hsupply)⟩

end

lemma Recovered.canEnd (h : Recovered c id w n db) (hn : n = remaining c w + 1)
    (hanswered : ∀ db act, act.answered db → G db act) : CanEndBy G c db id := by
  obtain hended | ⟨w', hstart, hwaits, hsame, hsupply⟩ := h
  · exact hended.canEndBy
  · subst hn
    exact hstart.canEnd ⟨hanswered, fun _ hpublishing => by simp [hwaits] at hpublishing⟩
      (Nat.le_of_eq hsame) hsupply

lemma Listed.canEnd (h : Listed c db id w) (hallows : Allows G w)
    (hsupply : Supply db.capabilities (remaining c w + 1)) : CanEndBy G c db id := by
  by_cases hrecovery : w.workflowType = .snapshot ∧ w.state ≠ .retryWait ∧
      w.errorCode = some .controllerGenerationRecovery
  · obtain ⟨htype, hawake, hmark⟩ := hrecovery
    obtain ⟨a, now, db', hstep, hrecovered⟩ := h.recovered htype hmark hsupply hawake
    exact .of_step hstep (hallows.answered _ _ rfl) (hrecovered.canEnd rfl hallows.answered)
  · have hstart : Startable c db id w :=
      ⟨h, fun htype hawake hmark => hrecovery ⟨htype, hawake, hmark⟩⟩
    exact hstart.canEnd hallows (Nat.le_refl _) hsupply

end StControl.Controller
