import StControl.Agent.OwnershipClaim
import StControl.Store.Schema

/-!
# Pending transfers of snapshots

Before a snapshot is sent, the controller arms a one-use capability on the target: a *pending
transfer*, kept in the runtime state under the identity of the snapshot.  A receive run consumes the
capability, extracts and publishes the tree, and records the receipt.  A failed attempt is armed
again with a new capability, directly or with a relay.

This module embeds the command `prepare_snapshot_receive` and the functions of `runtime_state.go` on
pending transfers: `prepareTransferLocked`, `prepareRelayTransfer`, `relayTransfer`,
`consumeTransfer`, `finishTransfer`, `failTransferIfIncomplete`, `publishTransfer` and the loop of
`loadRuntimeState`.  Every save succeeds.

The last section says what each of them does to the transfer of a snapshot.  `Follows t t'` is what
is always wanted of it: the scope stays, and a published transfer stays as it is.  `finishTransfer`
alone does not guarantee it, since it asks for no state.
-/

namespace StControl.Agent

open Store (NodeRole Time)
open Option

variable {keys : String × String}

/-! ## Transfers -/

structure SnapshotTransferReceipt where
  ok : Bool
  (snapshotID manifestSHA256 archiveSHA256 : String)
  (fileCount totalBytes : ℤ)
  relayPending : Bool
  deriving DecidableEq

inductive TransferState
  | prepared | consumed | failed | published
  deriving DecidableEq

inductive DestinationKind
  | archive | hotStandby | restore | conflictInput
  deriving DecidableEq

/-- `pendingTransfer`; an absent relay is the empty text, as in the source. -/
structure PendingTransfer where
  (workflowID snapshotID : String)
  globalUserID : ℤ
  targetNodeID : NodeID
  handle : String
  destinationKind : DestinationKind
  sourceNodeID : NodeID
  activityEpoch : ℤ
  capabilityHash : String
  expiresAt : Time
  (relayTaskID relayPrivateKey relayPublicKey : String)
  state : TransferState
  updatedAt : Time
  receipt : Option SnapshotTransferReceipt
  deriving DecidableEq

abbrev PendingTransfers := Table String PendingTransfer

/-- `validHandle`: 1 to 64 bytes of lower-case letters, digits and dashes. -/
def validHandle (handle : String) : Bool :=
  1 ≤ handle.utf8ByteSize && handle.utf8ByteSize ≤ 64 && handle != "." && handle != ".." &&
    handle.toList.all fun c => ('a' ≤ c && c ≤ 'z') || ('0' ≤ c && c ≤ '9') || c == '-'

/-- `validCapabilityHash`: 32 bytes in hexadecimal. -/
def validCapabilityHash (value : String) : Bool := validOwnershipDigest value

/-- `validatePendingTransferState`; an unset time cannot be written down. -/
def validatePendingTransferState (nodeID : NodeID) (transfer : PendingTransfer) : Bool :=
  validUUID transfer.workflowID && validUUID transfer.snapshotID && 0 < transfer.globalUserID &&
    0 < transfer.targetNodeID && !(0 < nodeID && transfer.targetNodeID ≠ nodeID) &&
    validHandle transfer.handle && 0 < transfer.sourceNodeID && 0 < transfer.activityEpoch &&
    validCapabilityHash transfer.capabilityHash &&
    !(transfer.state = .published && transfer.receipt.isNone) &&
    !(transfer.state ≠ .published && transfer.receipt.isSome) &&
    !(transfer.relayTaskID != "" && (!validUUID transfer.relayTaskID ||
      transfer.relayPrivateKey == "" || transfer.relayPublicKey == ""))

def sameTransferScope (left right : PendingTransfer) : Bool :=
  left.workflowID = right.workflowID && left.snapshotID = right.snapshotID &&
    left.globalUserID = right.globalUserID && left.targetNodeID = right.targetNodeID &&
    left.handle = right.handle && left.destinationKind = right.destinationKind &&
    left.sourceNodeID = right.sourceNodeID && left.activityEpoch = right.activityEpoch

/-! ## The functions of the runtime state -/

def PendingTransfer.failIfIncomplete (now : Time) (transfer : PendingTransfer) : PendingTransfer :=
  if transfer.state = .prepared ∨ transfer.state = .consumed then
    { transfer with state := .failed, updatedAt := now }
  else transfer

def PendingTransfer.resume (now : Time) (transfer : PendingTransfer) : PendingTransfer :=
  if transfer.state = .consumed then
    { transfer with
      state := if now < transfer.expiresAt then .prepared else .failed
      updatedAt := now }
  else transfer

namespace PendingTransfers

/-- The exceptions of `prepareTransferLocked`: a transfer that the new one replaces. -/
def replaceable (now : Time) (existing transfer : PendingTransfer) : Bool :=
  let sameCapability := existing.workflowID = transfer.workflowID ∧
    existing.capabilityHash = transfer.capabilityHash
  let sameScope := sameTransferScope existing transfer
  let restores := existing.destinationKind = .restore ∧ transfer.destinationKind = .restore
  let expired := ¬ now < existing.expiresAt
  let replaceableExactRetry := sameScope &&
    ((existing.state = .failed && (¬ sameCapability ||
        (transfer.relayTaskID ≠ "" && existing.relayTaskID ≠ transfer.relayTaskID))) ||
      (existing.state = .prepared && (¬ sameCapability || transfer.relayTaskID ≠ "")))
  let retryableExpiredRestore := sameScope && restores && existing.state = .consumed && expired
  let replaceablePreparedRestore :=
    sameScope && restores && existing.state = .prepared && ¬ sameCapability
  let replaceableExpiredPrepared := sameScope && existing.state = .prepared && expired
  replaceableExactRetry || replaceableExpiredPrepared || retryableExpiredRestore ||
    replaceablePreparedRestore

def alreadyPrepared (existing transfer : PendingTransfer) : Bool :=
  existing.workflowID = transfer.workflowID && existing.capabilityHash = transfer.capabilityHash &&
    existing.state = .prepared && sameTransferScope existing transfer &&
    existing.relayTaskID = transfer.relayTaskID &&
    existing.relayPrivateKey = transfer.relayPrivateKey &&
    existing.relayPublicKey = transfer.relayPublicKey

/-- The same capability is prepared already, and the new transfer neither repeats it nor adds a
relay to it. -/
def clashes (existing transfer : PendingTransfer) : Bool :=
  existing.workflowID = transfer.workflowID && existing.capabilityHash = transfer.capabilityHash &&
    existing.state = .prepared && (transfer.relayTaskID = "" || !sameTransferScope
      existing transfer)

/-- The end of `prepareTransferLocked`. -/
def arm (now : Time) (transfer : PendingTransfer) (transfers : PendingTransfers) :
    PendingTransfers :=
  transfers.put transfer.snapshotID { transfer with state := .prepared, updatedAt := now }

/-- `prepareTransferLocked`; `none` is its error. -/
def prepareTransferLocked (now : Time) (transfer : PendingTransfer)
    (transfers : PendingTransfers) : Option PendingTransfers :=
  match transfers.get? transfer.snapshotID with
  | none => some (arm now transfer transfers)
  | some existing =>
    if alreadyPrepared existing transfer then some transfers
    else if clashes existing transfer then none
    else if replaceable now existing transfer then some (arm now transfer transfers)
    else none

/-- `prepareRelayTransfer`; `keys` is the key pair that is generated when one is needed. -/
def prepareRelayTransfer (now : Time) (taskID : String) (keys : String × String)
    (transfer : PendingTransfer) (transfers : PendingTransfers) : Option PendingTransfers :=
  if validUUID taskID = false then none
  else
    let reusable := (transfers.get? transfer.snapshotID).any fun existing =>
      existing.workflowID = transfer.workflowID &&
        existing.capabilityHash = transfer.capabilityHash && existing.state = .prepared &&
        existing.relayTaskID = taskID && existing.relayPrivateKey != "" &&
        existing.relayPublicKey != ""
    if reusable then some transfers
    else prepareTransferLocked now
      { transfer with
        relayTaskID := taskID, relayPrivateKey := keys.1, relayPublicKey := keys.2 } transfers

section

variable (snapshotID : String)

def setState (state : TransferState) (now : Time) (transfers : PendingTransfers) :
    PendingTransfers :=
  transfers.modify snapshotID fun transfer => { transfer with state := state, updatedAt := now }

/-- `relayTransfer`: an attempt that was interrupted after it had consumed its capability is failed;
no other one is changed. -/
def relayTransfer (snapshotID workflowID taskID : String) (now : Time)
    (transfers : PendingTransfers) : PendingTransfers :=
  match transfers.get? snapshotID with
  | none => transfers
  | some transfer =>
    if transfer.workflowID ≠ workflowID ∨ transfer.relayTaskID ≠ taskID ∨
        transfer.relayPrivateKey = "" then transfers
    else if transfer.state = .consumed then transfers.setState snapshotID .failed now
    else transfers

def sameDigest (left right : String) : Bool :=
  left.toList.map Char.toLower == right.toList.map Char.toLower

/-- `consumeTransfer`: the transfer whose capability the token is. -/
def consumeTransfer (env : Env) (snapshotID workflowID token : String) (now : Time)
    (transfers : PendingTransfers) : Option PendingTransfer :=
  (transfers.get? snapshotID).bind fun transfer =>
    if transfer.workflowID = workflowID ∧ transfer.state = .prepared ∧ now < transfer.expiresAt ∧
        validCapabilityHash transfer.capabilityHash ∧
        sameDigest transfer.capabilityHash (env.digest token) then some transfer
    else none

/-- `finishTransfer`, which asks for no state. -/
def finishTransfer (state : TransferState) (now : Time) (transfers : PendingTransfers) :
    PendingTransfers :=
  transfers.setState snapshotID state now

def failTransferIfIncomplete (now : Time) (transfers : PendingTransfers) : PendingTransfers :=
  transfers.modify snapshotID (PendingTransfer.failIfIncomplete now)

/-- `publishTransfer`: only a consumed transfer takes a receipt. -/
def publishTransfer (receipt : SnapshotTransferReceipt) (now : Time)
    (transfers : PendingTransfers) :
    PendingTransfers :=
  transfers.modify snapshotID fun transfer =>
    if transfer.state = .consumed then
      { transfer with state := .published, receipt := some receipt, updatedAt := now }
    else transfer

end

/-- The loop of `loadRuntimeState`.  The agent does not start on a transfer that is not well
formed. -/
def load (nodeID : NodeID) (now : Time) (transfers : PendingTransfers) : Option PendingTransfers :=
  if transfers.all (fun snapshotID transfer => snapshotID = transfer.snapshotID &&
      validatePendingTransferState nodeID transfer) then
    some (transfers.mapRows fun _ => PendingTransfer.resume now)
  else none

end PendingTransfers

/-! ## The command that arms a transfer -/

structure PrepareSnapshotReceiveRequest where
  (workflowID snapshotID : String)
  globalUserID : ℤ
  handle : String
  destinationKind : DestinationKind
  sourceNodeID : NodeID
  activityEpoch : ℤ
  capabilityHash : String
  expiresAt : Time
  relayTaskID : String
  deriving DecidableEq

structure ReceiveConfig where
  nodeID : NodeID
  role : NodeRole

section

variable (config : ReceiveConfig)

/-- The checks of the command `prepare_snapshot_receive`. -/
def PrepareSnapshotReceiveRequest.valid (now : Time) (payload : PrepareSnapshotReceiveRequest) :
    Bool :=
  validUUID payload.workflowID && validUUID payload.snapshotID && 0 < payload.globalUserID &&
    validHandle payload.handle && 0 < payload.sourceNodeID && 0 < payload.activityEpoch &&
    config.role = (if payload.destinationKind = .archive then .storage else .compute) &&
    validCapabilityHash payload.capabilityHash && now < payload.expiresAt &&
    payload.expiresAt ≤ now + 9 * 60 * 60

def PrepareSnapshotReceiveRequest.transfer (payload : PrepareSnapshotReceiveRequest) :
    PendingTransfer where
  workflowID := payload.workflowID
  snapshotID := payload.snapshotID
  globalUserID := payload.globalUserID
  targetNodeID := config.nodeID
  handle := payload.handle
  destinationKind := payload.destinationKind
  sourceNodeID := payload.sourceNodeID
  activityEpoch := payload.activityEpoch
  capabilityHash := payload.capabilityHash
  expiresAt := payload.expiresAt
  relayTaskID := ""
  relayPrivateKey := ""
  relayPublicKey := ""
  state := .prepared
  updatedAt := 0
  receipt := none

/-- The command `prepare_snapshot_receive`. -/
def prepareSnapshotReceive (now : Time) (keys : String × String)
    (payload : PrepareSnapshotReceiveRequest) (transfers : PendingTransfers) :
    Option PendingTransfers :=
  if payload.valid config now = false then none
  else if payload.relayTaskID ≠ "" then
    transfers.prepareRelayTransfer now payload.relayTaskID keys (payload.transfer config)
  else transfers.prepareTransferLocked now (payload.transfer config)

end

/-! ## What the functions do to a transfer -/

def PendingTransfer.scope (t : PendingTransfer) :
    String × String × ℤ × NodeID × String × DestinationKind × NodeID × ℤ :=
  (t.workflowID, t.snapshotID, t.globalUserID, t.targetNodeID, t.handle, t.destinationKind,
    t.sourceNodeID, t.activityEpoch)

lemma sameTransferScope_iff {left right : PendingTransfer} :
    sameTransferScope left right ↔ left.scope = right.scope := by
  simp [sameTransferScope, PendingTransfer.scope, and_assoc]

structure PendingTransfer.Open (t : PendingTransfer) : Prop where
  waits : t.state = .prepared ∨ t.state = .failed
  bare : t.receipt = none

structure Follows (t t' : PendingTransfer) : Prop where
  scope : t.scope = t'.scope
  published : t.state = .published → t' = t

lemma Follows.refl (t : PendingTransfer) : Follows t t := ⟨rfl, fun _ => rfl⟩

variable {t : PendingTransfer}

lemma Follows.snapshotID {t' : PendingTransfer} (h : Follows t t') :
    t'.snapshotID = t.snapshotID := by
  have hscope := h.scope
  simp only [PendingTransfer.scope, Prod.mk.injEq] at hscope
  exact hscope.2.1.symm

lemma Follows.trans {u v : PendingTransfer} (h : Follows t u) (h' : Follows u v) : Follows t v where
  scope := h.scope.trans h'.scope
  published hpublished := by
    have hu : u = t := h.published hpublished
    subst hu
    exact h'.published hpublished

def Continues (transfers transfers' : PendingTransfers) : Prop :=
  ∀ snapshotID t, transfers.get? snapshotID = some t →
    ∃ t', transfers'.get? snapshotID = some t' ∧ Follows t t'

lemma Continues.refl (transfers : PendingTransfers) : Continues transfers transfers :=
  fun _ t ht => ⟨t, ht, .refl t⟩

lemma Continues.trans {transfers transfers' transfers'' : PendingTransfers}
    (h : Continues transfers transfers') (h' : Continues transfers' transfers'') :
    Continues transfers transfers'' := by
  intro snapshotID t ht
  obtain ⟨u, hu, htu⟩ := h snapshotID t ht
  obtain ⟨v, hv, huv⟩ := h' snapshotID u hu
  exact ⟨v, hv, htu.trans huv⟩

lemma continues_modify {transfers : PendingTransfers} {snapshotID : String}
    {f : PendingTransfer → PendingTransfer}
    (hf : ∀ t, transfers.get? snapshotID = some t → Follows t (f t)) :
    Continues transfers (transfers.modify snapshotID f) := by
  intro key t ht
  rw [Table.get?_modify]
  by_cases hkey : key = snapshotID
  · subst hkey
    rw [if_pos rfl, ht]
    exact ⟨f t, rfl, hf t ht⟩
  · rw [if_neg hkey]
    exact ⟨t, ht, .refl t⟩

namespace PendingTransfers

variable {now : Time} {transfers transfers' : PendingTransfers}

lemma of_replaceable {existing transfer : PendingTransfer} (h : replaceable now existing transfer) :
    existing.scope = transfer.scope ∧ existing.state ≠ .published := by
  rw [← sameTransferScope_iff]
  simp only [replaceable, Bool.or_eq_true, Bool.and_eq_true, decide_eq_true_eq] at h
  rcases h with ((⟨hscope, hstate⟩ | ⟨⟨hscope, hstate⟩, -⟩) | ⟨⟨⟨hscope, -⟩, hstate⟩, -⟩) |
    ⟨⟨⟨hscope, -⟩, hstate⟩, -⟩
  · refine ⟨hscope, ?_⟩
    rcases hstate with ⟨hstate, -⟩ | ⟨hstate, -⟩ <;> rw [hstate] <;> decide
  all_goals
    refine ⟨hscope, ?_⟩
    rw [hstate]
    decide

/-- The transfers are left alone, or one is armed in the place of one with the same scope that is
not published. -/
def Arms (transfers transfers' : PendingTransfers) : Prop :=
  transfers' = transfers ∨ ∃ armed : PendingTransfer, armed.Open ∧
    transfers' = transfers.put armed.snapshotID armed ∧
    ∀ t, transfers.get? armed.snapshotID = some t → t.scope = armed.scope ∧ t.state ≠ .published

lemma arms_prepareTransferLocked {transfer : PendingTransfer} (hbare : transfer.receipt = none)
    (h : transfers.prepareTransferLocked now transfer = some transfers') :
    Arms transfers transfers' := by
  have hopen : ({ transfer with state := .prepared, updatedAt := now } : PendingTransfer).Open :=
    ⟨.inl rfl, hbare⟩
  unfold prepareTransferLocked at h
  split at h
  next hnone =>
    refine .inr ⟨_, hopen, (some.inj h).symm, fun t ht => ?_⟩
    cases hnone.symm.trans ht
  next existing hexisting =>
    split at h
    · exact .inl (some.inj h).symm
    split at h
    · cases h
    split at h
    next hreplaceable =>
      refine .inr ⟨_, hopen, (some.inj h).symm, fun t ht => ?_⟩
      cases hexisting.symm.trans ht
      exact of_replaceable hreplaceable
    next => cases h

lemma arms_prepareRelayTransfer {transfer : PendingTransfer} {taskID : String}
    (hbare : transfer.receipt = none)
    (h : transfers.prepareRelayTransfer now taskID keys transfer = some transfers') :
    Arms transfers transfers' := by
  unfold prepareRelayTransfer at h
  split at h
  · cases h
  dsimp only at h
  split at h
  · exact .inl (some.inj h).symm
  · refine arms_prepareTransferLocked ?_ h
    exact hbare

end PendingTransfers

lemma arms_prepareSnapshotReceive {config : ReceiveConfig} {now : Time}
    {payload : PrepareSnapshotReceiveRequest} {transfers transfers' : PendingTransfers}
    (h : prepareSnapshotReceive config now keys payload transfers = some transfers') :
    PendingTransfers.Arms transfers transfers' := by
  have hbare : (payload.transfer config).receipt = none := rfl
  unfold prepareSnapshotReceive at h
  split at h
  · cases h
  split at h
  · exact PendingTransfers.arms_prepareRelayTransfer hbare h
  · exact PendingTransfers.arms_prepareTransferLocked hbare h

lemma of_consumeTransfer {env : Env} {snapshotID workflowID token : String} {now : Time}
    {transfers : PendingTransfers}
    (h : transfers.consumeTransfer env snapshotID workflowID token now = some t) :
    transfers.get? snapshotID = some t ∧ t.state = .prepared := by
  obtain ⟨u, hu, hguard⟩ := bind_eq_some_iff.mp h
  obtain ⟨⟨-, hstate, -⟩, ⟨⟩⟩ := ite_none_right_eq_some.mp hguard
  exact ⟨hu, hstate⟩

lemma relayTransfer_eq_modify (snapshotID workflowID taskID : String) (now : Time)
    (transfers : PendingTransfers) :
    transfers.relayTransfer snapshotID workflowID taskID now = transfers ∨
      (∀ t, transfers.get? snapshotID = some t → t.state = .consumed) ∧
        transfers.relayTransfer snapshotID workflowID taskID now =
          transfers.setState snapshotID .failed now := by
  unfold PendingTransfers.relayTransfer
  split
  · exact .inl rfl
  next t ht =>
    split
    · exact .inl rfl
    split
    next hstate =>
      refine .inr ⟨fun u hu => ?_, rfl⟩
      cases ht.symm.trans hu
      exact hstate
    next => exact .inl rfl

end StControl.Agent
