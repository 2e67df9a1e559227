import StControl.Controller.ResolutionSuccess
import StControl.Controller.FrozenUser
import StControl.Controller.Stranded
import StControl.Store.SettledConflicts

/-!
# The way out of a conflict

A user whose replicas conflict is frozen until the conflict is resolved: sweeps capture the sources,
the evidence of every source is taken, the user chooses a base, and the resolution is carried out.
`exitStep` is what happens meanwhile: the sweeps, the reconcilers, the choices of the user, and the
reports of agents about the lease.

Three facts of the moment of the freeze are never revised.  The freeze leaves the counters of
requests in flight in the lease row, and a frozen row takes no telemetry and cannot be ended; but
the creation of a resolution asks for counters that are zero.  It asks for two sources, one of them
on a compute node, where a conflict that was caused by a writer without a replica row has only one.
And it asks for a user without a live workflow, where a restore that is to be published when the
user is frozen can neither be completed nor fail.  `conflict_has_exit` says when there is a way out,
and `conflicts_without_exit` gives a run for each of the three.
-/

namespace StControl.Controller

open Store Run Transaction Option Table Db

variable {c : RetryConfig} {db db' : Db} {conflictID : UUID} {conflict : ReplicaConflict}
variable {node : NodeID} {conflict' : ReplicaConflict} {e : EvidenceState}

/-! ## What happens while a user is frozen -/

/-- The transactions of sweeps, of evidence, of the user's choices and of the reports about the
lease. -/
def Act.whileFrozen : Act → Bool
  | .reconcileProtectionStates .. | .claimConflictEvidence .. | .retryConflictEvidence ..
  | .completeConflictEvidence .. | .createConflictResolution _ | .restartConflictResolution _
  | .renewActivityLease .. | .updateActivityLeaseTelemetry _ | .endActivityLease .. => true
  | _ => false

inductive ExitAct
  | work (act : ReconcilerAct)
  | store (act : Act)

def exitStep (c : RetryConfig) (db : Db) : ExitAct → Option Db
  | .work act => if act.answered db then reconcilerStep c db act else none
  | .store act => if Act.whileFrozen act then step db act else none

def CanResolve (c : RetryConfig) (db : Db) (conflictID : UUID) : Prop :=
  ∃ acts db' conflict, run (exitStep c) db acts = some db' ∧
    db'.conflicts.get? conflictID = some conflict ∧ conflict.state = .resolved

lemma CanResolve.of_run {acts : List ExitAct} (hrun : run (exitStep c) db acts = some db')
    (h : CanResolve c db' conflictID) : CanResolve c db conflictID := by
  obtain ⟨acts', db'', conflict, hrun', hresolved⟩ := h
  exact ⟨acts ++ acts', db'', conflict, run_append_eq_some.mpr ⟨db', hrun, hrun'⟩, hresolved⟩

variable {act : ExitAct}

lemma run_exit (h : exitStep c db act = some db') : run (exitStep c) db [act] = some db' :=
  run_cons_eq_some.mpr ⟨db', h, run_nil db'⟩

lemma exitStep_work {act : ReconcilerAct} (hanswered : act.answered db)
    (h : reconcilerStep c db act = some db') : exitStep c db (.work act) = some db' := by
  rw [exitStep, if_pos hanswered, h]

lemma exitStep_store {act : Act} (hact : Act.whileFrozen act)
    (h : act.transaction db = .ok db') : exitStep c db (.store act) = some db' := by
  rw [exitStep, if_pos hact]
  exact step_eq_some.mpr h

/-! ## The sources of a conflict -/

def hasEvidence (db : Db) (conflict : ReplicaConflict) (node : NodeID) : Bool :=
  (conflict.sources.get? node).isSome || (db.nodes.get? node).isSome && db.isConflictSource node

lemma get?_captureSources (db : Db) (conflict : ReplicaConflict) (node : NodeID) :
    (captureSources db conflict).sources.get? node =
      if (db.nodes.get? node).isSome && db.isConflictSource node &&
        (conflict.sources.get? node).isNone then some .pending else conflict.sources.get? node := by
  have hmissing : node ∈ (db.nodes.entries.filter fun e =>
      db.isConflictSource e.1 && (conflict.sources.get? e.1).isNone).map (·.1) ↔
      ((db.nodes.get? node).isSome && db.isConflictSource node &&
        (conflict.sources.get? node).isNone) := by
    simp only [List.mem_map, List.mem_filter, Sigma.exists, isSome_iff_exists, Bool.and_eq_true,
      get?_eq_some_iff_mem]
    constructor
    · rintro ⟨k, n, ⟨hn, hsource, hnew⟩, rfl⟩
      exact ⟨⟨⟨n, hn⟩, hsource⟩, hnew⟩
    · rintro ⟨⟨⟨n, hn⟩, hsource⟩, hnew⟩
      exact ⟨node, n, ⟨hn, hsource, hnew⟩, rfl⟩
  have hfold := get?_foldl_put ((db.nodes.entries.filter fun e =>
    db.isConflictSource e.1 && (conflict.sources.get? e.1).isNone).map (·.1)) EvidenceState.pending
    conflict.sources node
  rw [List.foldl_map] at hfold
  simp only [hmissing] at hfold
  exact hfold

lemma isSome_captureSources (db : Db) (conflict : ReplicaConflict) (node : NodeID) :
    ((captureSources db conflict).sources.get? node).isSome = hasEvidence db conflict node := by
  rw [get?_captureSources, hasEvidence]
  cases hsource : conflict.sources.get? node with
  | none => cases (db.nodes.get? node).isSome && db.isConflictSource node <;> simp
  | some e => simp

lemma captureSources_of_complete (h : ∀ n, (db.nodes.get? n).isSome →
    db.isConflictSource n → (conflict.sources.get? n).isSome) :
    captureSources db conflict = { conflict with sourcesCaptured := true } := by
  have hnone : (db.nodes.entries.filter fun e =>
      db.isConflictSource e.1 && (conflict.sources.get? e.1).isNone) = [] := by
    refine List.filter_eq_nil_iff.mpr fun e he => ?_
    have hnode : (db.nodes.get? e.1).isSome :=
      isSome_iff_exists.mpr ⟨e.2, get?_eq_some_iff_mem.mpr he⟩
    rw [Bool.and_eq_true, isNone_iff_eq_none]
    rintro ⟨hsource, hnew⟩
    have hknown := h e.1 hnode hsource
    simp [hnew] at hknown
  simp [captureSources, hnone]

lemma captureSources_state_of_missing (hnode : (db.nodes.get? node).isSome)
    (hsource : db.isConflictSource node) (hnew : conflict.sources.get? node = none) :
    (captureSources db conflict).state =
      if conflict.sourcesCaptured then .inspecting else conflict.state := by
  obtain ⟨n, hn⟩ := isSome_iff_exists.mp hnode
  have hsome : (db.nodes.entries.filter fun e =>
      db.isConflictSource e.1 && (conflict.sources.get? e.1).isNone).isEmpty = false := by
    refine List.isEmpty_eq_false_iff_exists_mem.mpr ⟨⟨node, n⟩, List.mem_filter.mpr
      ⟨get?_eq_some_iff_mem.mp hn, ?_⟩⟩
    simp [hsource, hnew]
  simp [captureSources, hsome]

def canBeBase (db : Db) (node : NodeID) : Bool :=
  (db.nodes.get? node).any fun n => n.role = .compute && n.operationalState ≠ .decommissioned &&
    n.operationalState ≠ .retired

/-- The choice was made, or it can be: nothing is counted as in flight, and the next sweep leaves at
least two sources, one of which can be the base. -/
def exitOpen (db : Db) (conflictID : UUID) (conflict : ReplicaConflict) : Bool :=
  db.resolutions.any (fun _ o => o.conflictID = conflictID) ||
    (db.lease.all (fun l => !l.inFlight) && 2 ≤ (captureSources db conflict).sources.keys.length &&
      (captureSources db conflict).sources.any fun node _ => canBeBase db node)

lemma exitOpen_eq_true : exitOpen db conflictID conflict ↔
    db.resolutions.any (fun _ o => o.conflictID = conflictID) ∨
      db.lease.all (fun l => !l.inFlight) ∧ 2 ≤ (captureSources db conflict).sources.keys.length ∧
      ∃ node, hasEvidence db conflict node ∧ canBeBase db node := by
  simp only [exitOpen, Bool.and_eq_true, Bool.or_eq_true, decide_eq_true_eq, and_assoc,
    Table.any_eq_true (t := (captureSources db conflict).sources), exists_and_right,
    ← isSome_iff_exists, isSome_captureSources]

lemma exitOpen_of_le (hresolutions : db'.resolutions = db.resolutions)
    (hnodes : db'.nodes = db.nodes) (hlease : db'.lease = db.lease)
    (hevidence : ∀ node, hasEvidence db' conflict' node → hasEvidence db conflict node)
    (h : exitOpen db' conflictID conflict') : exitOpen db conflictID conflict := by
  rw [exitOpen_eq_true] at h ⊢
  rw [hresolutions, hlease] at h
  refine h.imp_right fun ⟨hquiet, htwo, node, hnode, hbase⟩ =>
    ⟨hquiet, Nat.le_trans htwo ?_, node, hevidence node hnode, ?_⟩
  · refine length_keys_le fun k hk => ?_
    rw [isSome_captureSources] at hk ⊢
    exact hevidence k hk
  · rwa [canBeBase, hnodes] at hbase

/-! ## Sweeps -/

abbrev OthersClosed (conflictID : UUID) (db : Db) : Prop :=
  ∀ id other, db.conflicts.get? id = some other → id ≠ conflictID →
    other.state = .resolved ∨ other.state = .failed

/-- The user is frozen by the conflict, which is the only open one. -/
@[mk_iff]
structure FrozenBy (db : Db) (conflictID : UUID) (conflict : ReplicaConflict) : Prop where
  user : db.user.globalStatus = .conflict ∧ db.user.legacyStatus = .conflict
  lease : ∀ l, db.lease = some l → l.state = .conflict
  row : db.conflicts.get? conflictID = some conflict
  isOpen : conflict.state ≠ .resolved ∧ conflict.state ≠ .failed
  others : OthersClosed conflictID db

instance : Decidable (FrozenBy db conflictID conflict) :=
  decidable_of_iff _ (frozenBy_iff ..).symm

namespace FrozenBy

variable {fence : LeaseFence} {now : Time} (h : FrozenBy db conflictID conflict)
include h

lemma openConflict : db.openConflict :=
  Table.any_eq_true.mpr ⟨conflictID, conflict, h.row, by simp [h.isOpen]⟩

lemma refreeze (now : Time) :
    { db.user with globalStatus := .conflict, legacyStatus := .conflict } = db.user ∧
      updateLease db.lease (fun l => l.state ≠ .conflict)
        (fun l => { l with state := .conflict, leaseExpiresAt := now }) = db.lease := by
  constructor
  · obtain ⟨hglobal, hlegacy⟩ := h.user
    generalize db.user = user at hglobal hlegacy ⊢
    cases user
    simp_all
  · cases hlease : db.lease with
    | none => rfl
    | some l => simp [updateLease, h.lease l hlease]

lemma sweep {fresh : UUID} (now : Time) (hfresh : db.conflicts.get? fresh = none) :
    ∃ protection tickets, reconcileProtectionStates now fresh db = .ok { db with
      protection, tickets, conflicts := db.captureConflicts db.conflicts } := by
  have hknown : db.user.globalStatus ≠ .deleted := by
    rw [h.user.1]
    decide
  obtain ⟨huser, hlease⟩ := h.refreeze now
  have hconflicts : db.openConflicts fresh db.projectProtection.version =
      db.captureConflicts db.conflicts := by
    rw [openConflicts, h.openConflict]
    rfl
  by_cases hconflict : db.projectProtection.state = .conflict
  · refine ⟨some db.projectProtection, revokeTickets db.tickets now, ?_⟩
    refine ok_require hfresh ?_
    simp only [if_neg hknown, if_pos hconflict, hconflicts, huser, hlease]
    rfl
  · refine ⟨some db.projectProtection, db.tickets, ?_⟩
    refine ok_require hfresh ?_
    simp only [if_neg hknown, if_neg hconflict]
    rfl

lemma eq_of_awaiting {id : UUID} {row : ReplicaConflict} (hrow : db.conflicts.get? id = some row)
    (hstate : row.state = .awaitingDecision) : id = conflictID := by
  by_contra hne
  rcases h.others id row hrow hne with hs | hs <;> rw [hs] at hstate <;> cases hstate

lemma updateLease {p : ActivityLease → Bool} {f : ActivityLease → ActivityLease}
    (hp : ∀ l, l.state = .conflict → p l = false) :
    { db with lease := Store.updateLease db.lease p f } = db := by
  have hlease : Store.updateLease db.lease p f = db.lease := by
    cases hl : db.lease with
    | none => rfl
    | some l => simp [Store.updateLease, hp l (h.lease l hl)]
  rw [hlease]

lemma renewLease {ttl : Duration} (hstep : renewActivityLease fence now ttl db = .ok db') :
    db' = db := by
  obtain ⟨-, hstep⟩ := of_require hstep
  rw [← pure_eq_ok.mp hstep, h.updateLease fun l hl => by simp [hl]]

lemma leaseTelemetry {p : ActivityLeaseTelemetry}
    (hstep : updateActivityLeaseTelemetry p db = .ok db') : db' = db := by
  obtain ⟨-, hstep⟩ := of_require hstep
  rw [← pure_eq_ok.mp hstep, h.updateLease fun l hl => by simp [hl]]

lemma endLease (hstep : endActivityLease fence now db = .ok db') : db' = db := by
  rw [← pure_eq_ok.mp hstep, h.updateLease fun l hl => by simp [hl, LeaseState.holding]]

end FrozenBy

/-- `IN ('detected','inspecting','awaiting_decision')`. -/
def beforeChoice : ConflictState → Bool
  | .detected | .inspecting | .awaitingDecision => true
  | .resolving | .resolved | .failed => false

lemma beforeChoice_of_inspection {s : ConflictState} (h : s = .detected ∨ s = .inspecting) :
    beforeChoice s := by
  rcases h with rfl | rfl <;> rfl

/-- The conflict waits for its evidence or for the choice. -/
@[mk_iff]
structure Undecided (db : Db) (conflictID : UUID) (conflict : ReplicaConflict) : Prop where
  state : beforeChoice conflict.state
  unresolved : ∀ operationID o, db.resolutions.get? operationID = some o → o.conflictID ≠ conflictID

instance : Decidable (Undecided db conflictID conflict) :=
  decidable_of_iff _ (undecided_iff ..).symm

lemma Undecided.captureConflicts (h : Undecided db conflictID conflict)
    (hrow : db.conflicts.get? conflictID = some conflict) :
    (db.captureConflicts db.conflicts).get? conflictID = some (captureSources db conflict) := by
  have hcaptured : ((conflict.state = .detected || conflict.state = .inspecting ||
      conflict.state = .awaitingDecision) &&
        db.resolutions.all (fun _ o => o.conflictID ≠ conflictID)) := by
    rw [Bool.and_eq_true]
    refine ⟨?_, Table.all_eq_true.mpr fun k o ho => decide_eq_true (h.unresolved k o ho)⟩
    have hstate := h.state
    cases hs : conflict.state <;> simp_all [beforeChoice]
  rw [Db.captureConflicts, get?_mapRows, hrow, map_some, hcaptured, if_pos rfl]

lemma get?_captureConflicts_of_closed {id : UUID} (hrow : db.conflicts.get? id = some conflict)
    (hclosed : conflict.state = .resolved ∨ conflict.state = .failed) :
    (db.captureConflicts db.conflicts).get? id = some conflict := by
  rw [captureConflicts, get?_mapRows, hrow, map_some]
  rcases hclosed with hs | hs <;> simp [hs]

/-! ## Waiting for the choice -/

/-- The conflict still waits for the choice: only conflicts, protection and tickets are rewritten,
the sources stay, and the same nodes have evidence. -/
def StillWaits (conflictID : UUID) (db : Db) (conflict : ReplicaConflict) (db' : Db) : Prop :=
  ∃ conflicts protection tickets conflict', db' = { db with conflicts, protection, tickets } ∧
    FrozenBy db' conflictID conflict' ∧ Undecided db' conflictID conflict' ∧
    (∀ node, (conflict.sources.get? node).isSome → (conflict'.sources.get? node).isSome) ∧
    ∀ node, hasEvidence db' conflict' node = hasEvidence db conflict node

lemma isSome_get?_put_of_source {sources : Table NodeID EvidenceState}
    (hsource : sources.get? node = some e) (e' : EvidenceState) (n : NodeID) :
    ((sources.put node e').get? n).isSome = (sources.get? n).isSome := by
  rw [get?_put]
  split
  next hn => simp [hn, hsource]
  · rfl

section

variable {id : UUID} (h : Undecided db conflictID conflict)
  (hfrozen : FrozenBy db conflictID conflict)
include h hfrozen

lemma Undecided.rewrite {conflicts : Table UUID ReplicaConflict}
    {protection : Option ProtectionState} {tickets : Table UUID ControlTicket}
    (hrow : conflicts.get? conflictID = some conflict')
    (hothers : ∀ id other, conflicts.get? id = some other → id ≠ conflictID →
      other.state = .resolved ∨ other.state = .failed) (hstate : beforeChoice conflict'.state)
    (hkept : ∀ node, (conflict.sources.get? node).isSome → (conflict'.sources.get? node).isSome)
    (hsources : ∀ node, hasEvidence db conflict' node = hasEvidence db conflict node) :
    StillWaits conflictID db conflict { db with conflicts, protection, tickets } := by
  refine ⟨conflicts, protection, tickets, conflict', rfl,
    ⟨hfrozen.user, hfrozen.lease, hrow, ?_, hothers⟩, ⟨hstate, h.unresolved⟩, hkept, hsources⟩
  constructor <;> rintro hs <;> rw [hs] at hstate <;> cases hstate

lemma Undecided.still : StillWaits conflictID db conflict db :=
  h.rewrite hfrozen hfrozen.row hfrozen.others h.state (fun _ hnode => hnode) fun _ => rfl

lemma Undecided.swept {protection : Option ProtectionState} {tickets : Table UUID ControlTicket} :
    FrozenBy { db with protection, tickets, conflicts := db.captureConflicts db.conflicts }
      conflictID (captureSources db conflict) ∧
    StillWaits conflictID db conflict
      { db with protection, tickets, conflicts := db.captureConflicts db.conflicts } := by
  have hothers : ∀ id other, (db.captureConflicts db.conflicts).get? id = some other →
      id ≠ conflictID → other.state = .resolved ∨ other.state = .failed := by
    intro id other hother hne
    rw [Db.captureConflicts, get?_mapRows] at hother
    obtain ⟨before, hbefore, -⟩ := map_eq_some_iff.mp hother
    have hkept := get?_captureConflicts_of_closed hbefore (hfrozen.others id before hbefore hne)
    rw [Db.captureConflicts, get?_mapRows, hother] at hkept
    exact some.inj hkept ▸ hfrozen.others id before hbefore hne
  have hstate : beforeChoice (captureSources db conflict).state := by
    simp only [captureSources]
    split
    · rfl
    · exact h.state
  have hopen : (captureSources db conflict).state ≠ .resolved ∧
      (captureSources db conflict).state ≠ .failed := by
    constructor <;> rintro hs <;> rw [hs] at hstate <;> cases hstate
  refine ⟨⟨hfrozen.user, hfrozen.lease, h.captureConflicts hfrozen.row, hopen, hothers⟩,
    h.rewrite hfrozen (h.captureConflicts hfrozen.row) hothers hstate (fun node hnode => ?_)
      fun node => ?_⟩
  · rw [isSome_captureSources, hasEvidence, hnode, Bool.true_or]
  · rw [hasEvidence, isSome_captureSources, hasEvidence]
    cases (conflict.sources.get? node).isSome <;> simp

lemma Undecided.sweep {fresh : UUID} {now : Time}
    (hstep : reconcileProtectionStates now fresh db = .ok db') :
    StillWaits conflictID db conflict db' := by
  have hfresh : db.conflicts.get? fresh = none := by
    exact (of_require hstep).1
  obtain ⟨protection, tickets, hsweep⟩ := hfrozen.sweep now hfresh
  obtain rfl := Except.ok.inj (hstep.symm.trans hsweep)
  exact (h.swept hfrozen).2

lemma Undecided.put {id : UUID} {row row' : ReplicaConflict}
    (hrow : db.conflicts.get? id = some row)
    (hsources : ∀ node, (row'.sources.get? node).isSome = (row.sources.get? node).isSome)
    (hstate : row'.state = row.state ∨ beforeChoice row.state ∧ beforeChoice row'.state) :
    StillWaits conflictID db conflict { db with conflicts := db.conflicts.put id row' } := by
  by_cases hid : id = conflictID
  · subst hid
    obtain rfl := mem_unique hrow hfrozen.row
    refine h.rewrite hfrozen (get?_put_self ..) ?_ ?_ (fun node hnode => ?_) ?_
    · intro id other hother hne
      rw [get?_put_of_ne hne] at hother
      exact hfrozen.others id other hother hne
    · rcases hstate with hs | hs
      · rw [hs]
        exact h.state
      · exact hs.2
    · rwa [hsources]
    · intro node
      rw [hasEvidence, hsources, hasEvidence]
  · have hover := hfrozen.others id row hrow hid
    have hover' : row'.state = row.state := by
      rcases hstate with hs | ⟨hs, -⟩
      · exact hs
      · rcases hover with ho | ho <;> rw [ho] at hs <;> cases hs
    refine h.rewrite hfrozen ((get?_put_of_ne (Ne.symm hid)).trans hfrozen.row) ?_ h.state
      (fun _ hnode => hnode) fun node => rfl
    intro id' other hother hne
    obtain ⟨-, rfl⟩ | hother := of_get?_put hother
    · exact hover' ▸ hover
    · exact hfrozen.others id' other hother hne

lemma Undecided.claimEvidence :
    Ensures (claimConflictEvidence id node db) (StillWaits conflictID db conflict) := by
  simp only [claimConflictEvidence, ensures_steps]
  intro row hrow hstate evidence hevidence _
  exact h.put hfrozen hrow (isSome_get?_put_of_source hevidence _)
    (.inr ⟨beforeChoice_of_inspection hstate, rfl⟩)

lemma Undecided.retryEvidence {exhausted : Bool} :
    Ensures (retryConflictEvidence id node exhausted db) (StillWaits conflictID db conflict) := by
  simp only [retryConflictEvidence, ensures_steps]
  intro row hrow evidence hevidence _
  exact h.put hfrozen hrow (isSome_get?_put_of_source hevidence _) (.inl rfl)

lemma Undecided.completeEvidence :
    Ensures (completeConflictEvidence id node db) (StillWaits conflictID db conflict) := by
  simp only [completeConflictEvidence, ensures_steps]
  intro row hrow hstate evidence hevidence _
  refine h.put hfrozen hrow (isSome_get?_put_of_source hevidence _)
    (.inr ⟨beforeChoice_of_inspection (.inr hstate), ?_⟩)
  split <;> rfl

lemma Undecided.not_restart {operationID : UUID} :
    restartConflictResolution operationID db ≠ .ok db' := by
  intro hstep
  obtain ⟨operation, _, _, _, _, hp, -⟩ := restartConflictResolution_commit db' hstep
  obtain ⟨_, hrow, hstate⟩ := hp.awaits
  exact h.unresolved operationID operation hp.hasOperation (hfrozen.eq_of_awaiting hrow hstate)

lemma Undecided.storeStep {act : Act} (hstep : exitStep c db (.store act) = some db') :
    StillWaits conflictID db conflict db' ∨ ∃ p generation, p.conflictID = conflictID ∧
      ResolutionCreation p db conflict generation ∧
      db' = insertConflictResolution p conflict generation db := by
  obtain ⟨hact, hstep⟩ := ite_none_right_eq_some.mp hstep
  have htransaction := step_eq_some.mp hstep
  cases act with
  | reconcileProtectionStates now fresh => exact .inl (h.sweep hfrozen htransaction)
  | claimConflictEvidence id node => exact .inl (h.claimEvidence hfrozen _ htransaction)
  | retryConflictEvidence id node exhausted => exact .inl (h.retryEvidence hfrozen _ htransaction)
  | completeConflictEvidence id node => exact .inl (h.completeEvidence hfrozen _ htransaction)
  | createConflictResolution p =>
    obtain rfl | ⟨row, generation, hp, rfl⟩ := createConflictResolution_commit db' htransaction
    · exact .inl (h.still hfrozen)
    · have hrow := hp.hasConflict
      have hid := hfrozen.eq_of_awaiting hrow hp.awaits
      rw [hid, hfrozen.row] at hrow
      cases hrow
      exact .inr ⟨p, generation, hid, hp, rfl⟩
  | restartConflictResolution operationID => exact absurd htransaction (h.not_restart hfrozen)
  | renewActivityLease fence now ttl =>
    exact .inl (hfrozen.renewLease htransaction ▸ h.still hfrozen)
  | updateActivityLeaseTelemetry p =>
    exact .inl (hfrozen.leaseTelemetry htransaction ▸ h.still hfrozen)
  | endActivityLease fence now => exact .inl (hfrozen.endLease htransaction ▸ h.still hfrozen)
  | _ => cases hact

end

lemma StillWaits.undisturbed {conflictID : UUID} (h : StillWaits conflictID db conflict db')
    (hundisturbed : Undisturbed db) (hlinked : db'.WellLinked) : Undisturbed db' := by
  obtain ⟨conflicts, protection, tickets, conflict', rfl, -⟩ := h
  exact ⟨hlinked, hundisturbed.frozen, hundisturbed.unresolved⟩

lemma wellLinked_of_storeStep {act : Act} (hlinked : db.WellLinked)
    (hstep : exitStep c db (.store act) = some db') : db'.WellLinked :=
  (step_committed (ite_none_right_eq_some.mp hstep).2).wellLinked hlinked

lemma isConflictSource_iff : db.isConflictSource node ↔
    (∃ r, db.copies.get? node = some r ∧ IsEvidence r) ∨
      ∃ r, db.replicas.get? node = some r ∧
        (r.state = .conflict ∨ db.user.homeNodeID = some node) := by
  simp only [Db.isConflictSource, Bool.or_eq_true, Option.any_eq_true, decide_eq_true_eq]
  constructor
  · rintro (⟨r, hr, hevidence | ⟨r', hr', hconflict⟩⟩ | hreplica)
    · exact .inl ⟨r, hr, hevidence⟩
    · exact .inr ⟨r', hr', .inl hconflict⟩
    · exact .inr hreplica
  · rintro (⟨r, hr, hevidence⟩ | hreplica)
    · exact .inl ⟨r, hr, .inl hevidence⟩
    · exact .inr hreplica

section

variable (h : Calm db db')
include h

lemma Calm.frozenBy (hfrozen : FrozenBy db conflictID conflict) :
    FrozenBy db' conflictID conflict where
  user := h.user ▸ hfrozen.user
  lease := h.lease ▸ hfrozen.lease
  row := h.conflicts ▸ hfrozen.row
  isOpen := hfrozen.isOpen
  others := fun id other hother => hfrozen.others id other (h.conflicts ▸ hother)

lemma Calm.undecided (hundecided : Undecided db conflictID conflict) :
    Undecided db' conflictID conflict where
  state := hundecided.state
  unresolved := h.resolutions ▸ hundecided.unresolved

lemma Calm.isConflictSource (hsource : db'.isConflictSource node) : db.isConflictSource node := by
  rw [isConflictSource_iff] at hsource ⊢
  rw [h.user] at hsource
  refine hsource.imp (fun ⟨r', hr', hevidence⟩ => (h.copies node r' hr').1 hevidence)
    fun ⟨r', hr', hevidence⟩ => ?_
  obtain ⟨r, hr, hbefore⟩ := h.replicas.before hr'
  exact ⟨r, hr, hevidence.imp_left hbefore⟩

lemma Calm.hasEvidence (hnodes : db'.nodes = db.nodes) (hevidence : hasEvidence db' conflict node) :
    hasEvidence db conflict node := by
  simp only [Controller.hasEvidence, Bool.or_eq_true, Bool.and_eq_true, hnodes] at hevidence ⊢
  exact hevidence.imp_right fun ⟨hnode, hsource⟩ => ⟨hnode, h.isConflictSource hsource⟩

end

lemma Undisturbed.work {act : ReconcilerAct} (h : Undisturbed db)
    (hstep : exitStep c db (.work act) = some db') :
    Calm db db' ∧ Undisturbed db' ∧ Aside db db' := by
  have hexecutes := executes_reconcilerStep (ite_none_right_eq_some.mp hstep).2
  exact ⟨(h.executes hexecutes).1, (h.executes hexecutes).2, hexecutes.aside⟩

/-! ## No way out -/

structure Trapped (conflictID : UUID) (db : Db) : Prop extends Undisturbed db where
  waits : ∃ conflict, FrozenBy db conflictID conflict ∧ Undecided db conflictID conflict ∧
    exitOpen db conflictID conflict = false

lemma needed_of_creation {p : CreateConflictResolutionParams} {generation : ℤ}
    (h : ResolutionCreation p db conflict generation)
    (hsource : (conflict.sources.get? node).isSome) :
    node = p.baseNodeID ∨ node ∈ p.transfers := by
  obtain ⟨base, -, hbase, -⟩ := h.base
  have hsub : p.baseNodeID :: p.transfers ⊆ conflict.sources.keys := by
    intro n hn
    rcases List.mem_cons.mp hn with rfl | hn
    · exact mem_keys_iff.mpr (by rw [hbase]; rfl)
    · have hready := of_decide_eq_true (List.all_eq_true.mp h.transfers n hn)
      exact mem_keys_iff.mpr (by rw [hready]; rfl)
  have hnodup : (p.baseNodeID :: p.transfers).Nodup :=
    List.nodup_cons.mpr ⟨h.distinct.2, h.distinct.1⟩
  have hperm := (List.subperm_of_subset hnodup hsub).perm_of_length_le (by
    rw [List.length_cons, h.count])
  exact List.mem_cons.mp (hperm.mem_iff.mpr (mem_keys_iff.mpr hsource))

lemma exitOpen_of_creation {p : CreateConflictResolutionParams} {generation : ℤ}
    (hp : ResolutionCreation p db conflict generation) :
    exitOpen db conflictID conflict := by
  obtain ⟨base, hbase, hsource, hrole, hactive⟩ := hp.base
  refine exitOpen_eq_true.mpr (.inr ⟨?_, Nat.le_trans hp.several ?_, p.baseNodeID, ?_, ?_⟩)
  · have hlease := hp.frozen
    cases hl : db.lease with
    | none => rfl
    | some l => simp_all [leaseFrozen]
  · refine length_keys_le fun k hk => ?_
    rw [isSome_captureSources, hasEvidence, hk, Bool.true_or]
  · rw [hasEvidence, hsource]
    rfl
  · simp [canBeBase, hbase, hrole, hactive]

lemma Trapped.exitStep (h : Trapped conflictID db) (hstep : exitStep c db act = some db') :
    Trapped conflictID db' := by
  obtain ⟨conflict, hfrozen, hundecided, hclosed⟩ := h.waits
  cases act with
  | work act =>
    obtain ⟨hcalm, hundisturbed, haside⟩ := h.toUndisturbed.work hstep
    refine ⟨hundisturbed, conflict, hcalm.frozenBy hfrozen, hcalm.undecided hundecided, ?_⟩
    rw [← Bool.not_eq_true] at hclosed ⊢
    exact fun hexit => hclosed (exitOpen_of_le hcalm.resolutions haside.nodes hcalm.lease
      (fun _ => hcalm.hasEvidence haside.nodes) hexit)
  | store act =>
    obtain hwaits | ⟨p, generation, -, hp, -⟩ := hundecided.storeStep hfrozen hstep
    · refine ⟨hwaits.undisturbed h.toUndisturbed (wellLinked_of_storeStep h.linked hstep), ?_⟩
      obtain ⟨conflicts, protection, tickets, conflict', rfl, hfrozen', hundecided', -, hsources⟩ :=
        hwaits
      refine ⟨conflict', hfrozen', hundecided', ?_⟩
      rw [← Bool.not_eq_true] at hclosed ⊢
      exact fun hexit => hclosed (exitOpen_of_le rfl rfl rfl (fun n hn => hsources n ▸ hn) hexit)
    · have hexit : exitOpen db conflictID conflict := exitOpen_of_creation hp
      simp [hexit] at hclosed

/-- A restore of the user is live that cannot come to its end: it is of an earlier generation, or it
is to be published, which takes a user who is not frozen. -/
def heldRestore (db : Db) : Bool :=
  db.workflows.any fun _ w => w.state.live && w.workflowType = .restore &&
    (!db.isCurrent w || w.state = .publishing)

abbrev restoreNodes (db : Db) (w : Workflow) : Bool :=
  (db.nodes.get? w.sourceNodeID).any (fun n => n.role = .storage) &&
    (db.nodes.get? w.targetNodeID).any fun n => n.role = .compute && n.transferURL ≠ ""

structure Held (conflictID id : UUID) (db : Db) : Prop extends Undisturbed db where
  waits : ∃ conflict, FrozenBy db conflictID conflict ∧ Undecided db conflictID conflict
  restore : ∃ w, db.workflows.get? id = some w ∧ w.state.live ∧ w.workflowType = .restore ∧
    (db.isCurrent w = false ∨ w.state = .publishing ∧ restoreNodes db w)

lemma Undisturbed.executeRestore {id : UUID} {w : Workflow} {a : RestoreAnswers} {now : Time}
    (h : Undisturbed db) (hw : db.workflows.get? id = some w) (htype : w.workflowType = .restore)
    (hpublishing : w.state = .publishing) (hnodes : restoreNodes db w)
    (hreceipt : a.receipt.isSome) (hstep : executeRestore c id a now db = some db') : db' = db := by
  obtain ⟨claimed, hclaim, hstep⟩ := bind_eq_some_iff.mp hstep
  obtain ⟨e, -, hstep⟩ := bind_eq_some_iff.mp hstep
  obtain ⟨w', hw', hstep⟩ := bind_eq_some_iff.mp hstep
  have hsame : claimed = db := by
    obtain ⟨v, hv, hclaim⟩ := bind_eq_some_iff.mp hclaim
    obtain rfl := mem_unique hw hv
    obtain ⟨-, hclaim⟩ := ite_none_right_eq_some.mp hclaim
    rw [if_neg (by simp [hpublishing])] at hclaim
    exact (some.inj hclaim).symm
  subst hsame
  obtain rfl := mem_unique hw hw'
  obtain ⟨manifest, hmanifest⟩ := isSome_iff_exists.mp hreceipt
  rw [restoreNodes] at hnodes
  simp only [htype, ne_eq, not_true_eq_false, hnodes, if_true, if_false, hpublishing,
    hmanifest] at hstep
  obtain rfl := some.inj hstep
  unfold completeRestoreExecution
  split
  · rcases perform_eq claimed (.completeRestoreWorkflow _) with hkept | hcommit
    · exact hkept
    obtain ⟨hkept, -⟩ | ⟨v, _, _, _, hp, -⟩ :=
      completeRestoreWorkflow_commit _ (step_eq_some.mp hcommit)
    · exact hkept
    · have hactive := hp.active
      simp [User.isActive, h.frozen] at hactive
  · rfl

lemma Held.work {id : UUID} {act : ReconcilerAct} (h : Held conflictID id db)
    (hstep : Controller.exitStep c db (.work act) = some db') : db' = db := by
  obtain ⟨hanswered, hstep⟩ := ite_none_right_eq_some.mp hstep
  obtain ⟨w, hw, hlive, htype, hstale | ⟨hpublishing, hnodes⟩⟩ := h.restore
  · simp [reconcilerStep_of_stale_restore h.linked.oneLive hw hlive htype hstale act] at hstep
  have hclaimed : ∀ {id' now claimed}, claimWorkflow id' now db = some claimed → id' = id := by
    intro id' now claimed hclaim
    obtain ⟨v, hv, hlive', -⟩ := (of_claimWorkflow hclaim).1
    exact h.linked.oneLive id' id v w hv hw hlive' hlive
  cases act with
  | adoptSnapshot id' now =>
    obtain ⟨v, hv, hlive', htype'⟩ := adopted_snapshot hstep
    obtain rfl := h.linked.oneLive id' id v w hv hw hlive' hlive
    simp [mem_unique hw hv ▸ htype] at htype'
  | adoptResolution id' hadRelay now =>
    obtain ⟨v, hv, hlive', htype'⟩ := adopted_resolution hstep
    obtain rfl := h.linked.oneLive id' id v w hv hw hlive' hlive
    simp [mem_unique hw hv ▸ htype] at htype'
  | executeRestore id' a now =>
    obtain ⟨claimed, hclaim, -⟩ := bind_eq_some_iff.mp hstep
    obtain rfl := hclaimed hclaim
    refine h.toUndisturbed.executeRestore hw htype hpublishing hnodes ?_ hstep
    simpa [ReconcilerAct.answered, hw, hpublishing] using hanswered
  | executeSnapshot id' a now | executeResolution id' a now =>
    obtain ⟨claimed, hclaim, hstep⟩ := bind_eq_some_iff.mp hstep
    obtain rfl := hclaimed hclaim
    obtain ⟨e, -, hstep⟩ := bind_eq_some_iff.mp hstep
    obtain ⟨v, hv, hstep⟩ := bind_eq_some_iff.mp hstep
    obtain ⟨v', hv', hcontinues⟩ :=
      (h.toUndisturbed.executes (executes_claimWorkflow hclaim)).1.workflows.after hw
    obtain rfl := mem_unique hv hv'
    simp [hcontinues.type, htype] at hstep

lemma Held.exitStep {id : UUID} (h : Held conflictID id db)
    (hstep : exitStep c db act = some db') : Held conflictID id db' := by
  obtain ⟨conflict, hfrozen, hundecided⟩ := h.waits
  cases act with
  | work act => exact h.work hstep ▸ h
  | store act =>
    obtain hwaits | ⟨p, generation, -, hp, -⟩ := hundecided.storeStep hfrozen hstep
    · have hundisturbed := hwaits.undisturbed h.toUndisturbed
        (wellLinked_of_storeStep h.linked hstep)
      obtain ⟨conflicts, protection, tickets, conflict', rfl, hfrozen', hundecided', -⟩ := hwaits
      obtain ⟨w, hw, hlive, htype, hheld⟩ := h.restore
      exact ⟨hundisturbed, ⟨conflict', hfrozen', hundecided'⟩, w, hw, hlive, htype,
        hheld⟩
    · obtain ⟨w, hw, hlive, -⟩ := h.restore
      have hidle := hp.accepts
      simp only [acceptsWorkflow, Bool.and_eq_true, Bool.not_eq_true'] at hidle
      simp [Table.any_eq_false.mp hidle.2 id w hw] at hlive

lemma not_canResolve_of_invariant {P : Db → Prop}
    (hstep : ∀ db act db', P db → exitStep c db act = some db' → P db')
    (hopen : ∀ db, P db → ∃ conflict, FrozenBy db conflictID conflict) (h : P db) :
    ¬ CanResolve c db conflictID := by
  rintro ⟨acts, db', row, hrun, hrow, hresolved⟩
  obtain ⟨conflict, hfrozen⟩ := hopen db' (run_invariant hstep h hrun)
  rw [hfrozen.row] at hrow
  exact hfrozen.isOpen.1 (some.inj hrow ▸ hresolved)

lemma Trapped.not_canResolve (h : Trapped conflictID db) : ¬ CanResolve c db conflictID :=
  not_canResolve_of_invariant (P := Trapped conflictID) (fun _ _ _ hs => hs.exitStep)
    (fun _ hs => hs.waits.imp fun _ hwaits => hwaits.1) h

lemma Held.not_canResolve {id : UUID} (h : Held conflictID id db) : ¬ CanResolve c db conflictID :=
  not_canResolve_of_invariant (P := Held conflictID id) (fun _ _ _ hs => hs.exitStep)
    (fun _ hs => hs.waits.imp fun _ hwaits => hwaits.1) h

/-! ## Taking the evidence -/

structure Inspected (conflict : ReplicaConflict) : Prop where
  waits : conflict.sources.all (fun _ e => e = .ready) → conflict.state = .awaitingDecision
  works : conflict.sources.all (fun _ e => e = .ready) = false →
    conflict.state = .detected ∨ conflict.state = .inspecting

lemma evidence_taken (hrow : db.conflicts.get? conflictID = some conflict)
    (hstate : conflict.state = .detected ∨ conflict.state = .inspecting)
    (hsource : conflict.sources.get? node = some e) (hnot : e ≠ .ready) :
    ∃ acts conflicts conflict', run (exitStep c) db acts = some { db with conflicts } ∧
      conflicts.get? conflictID = some conflict' ∧ Inspected conflict' ∧
      (∀ n, conflict'.sources.get? n = if n = node then
        some .ready else conflict.sources.get? n) ∧
      ∀ k, k ≠ conflictID → conflicts.get? k = db.conflicts.get? k := by
  let claimed : ReplicaConflict := { conflict with
    sources := conflict.sources.put node .capturing, state := .inspecting
    version := if conflict.state = .detected then conflict.version + 1 else conflict.version }
  let sources := claimed.sources.put node .ready
  let taken : ReplicaConflict := { claimed with
    sources, state := if sources.all (fun _ e => e = .ready) then .awaitingDecision else .inspecting
    version := claimed.version + 1 }
  have hclaim : exitStep c db (.store (.claimConflictEvidence conflictID node)) =
      some { db with conflicts := db.conflicts.put conflictID claimed } := by
    refine exitStep_store rfl ?_
    exact ok_need hrow (ok_require hstate (ok_need hsource (ok_require hnot rfl)))
  have hcomplete : exitStep c { db with conflicts := db.conflicts.put conflictID claimed }
      (.store (.completeConflictEvidence conflictID node)) = some { db with
        conflicts := (db.conflicts.put conflictID claimed).put conflictID taken } := by
    refine exitStep_store rfl ?_
    exact ok_need (get?_put_self ..) (ok_require rfl (ok_need (get?_put_self ..)
      (ok_require rfl rfl)))
  refine ⟨[_, _], _, taken, run_cons_eq_some.mpr ⟨_, hclaim, run_exit hcomplete⟩,
    get?_put_self .., ⟨fun hall => if_pos hall, fun hall => .inr ?_⟩, fun n => ?_, fun k hk => by
      rw [get?_put_of_ne hk, get?_put_of_ne hk]⟩
  · have hsome : sources.all (fun _ e => e = .ready) = false := hall
    simp [taken, hsome]
  · show ((conflict.sources.put node .capturing).put node .ready).get? n = _
    rw [get?_put, get?_put]
    split <;> rfl

lemma all_evidence_taken (nodes : List NodeID) :
    ∀ (db : Db) (conflict : ReplicaConflict), db.conflicts.get? conflictID = some conflict →
      Inspected conflict → (∀ n e, conflict.sources.get? n = some e → e ≠ .ready → n ∈ nodes) →
      ∃ acts conflicts conflict', run (exitStep c) db acts = some { db with conflicts } ∧
        conflicts.get? conflictID = some conflict' ∧ conflict'.sources.all (fun _ e => e = .ready) ∧
        conflict'.state = .awaitingDecision ∧
        (∀ n, (conflict'.sources.get? n).isSome = (conflict.sources.get? n).isSome) ∧
        ∀ k, k ≠ conflictID → conflicts.get? k = db.conflicts.get? k := by
  induction nodes with
  | nil =>
    intro db conflict hrow hinspected hnodes
    have hall : conflict.sources.all (fun _ e => e = .ready) :=
      Table.all_eq_true.mpr fun n e he => by
        by_contra hnot
        exact List.not_mem_nil (hnodes n e he (by simpa using hnot))
    exact ⟨[], db.conflicts, conflict, rfl, hrow, hall, hinspected.waits hall, fun _ => rfl,
      fun _ _ => rfl⟩
  | cons node nodes ih =>
    intro db conflict hrow hinspected hnodes
    by_cases hpending : ∃ e, conflict.sources.get? node = some e ∧ e ≠ .ready
    · obtain ⟨e, hsource, hnot⟩ := hpending
      have hsome : conflict.sources.all (fun _ e => e = .ready) = false := by
        rw [← Bool.not_eq_true]
        intro hall
        exact hnot (of_decide_eq_true (Table.all_eq_true.mp hall node e hsource))
      obtain ⟨acts, conflicts, conflict', hrun, hrow', hinspected', hsources, hothers⟩ :=
        evidence_taken (c := c) hrow (hinspected.works hsome) hsource hnot
      have hrest : ∀ n e, conflict'.sources.get? n = some e → e ≠ .ready → n ∈ nodes := by
        intro n e' he' hnot'
        rw [hsources n] at he'
        split at he'
        · exact absurd (some.inj he').symm hnot'
        next hn => exact (List.mem_cons.mp (hnodes n e' he' hnot')).resolve_left hn
      obtain ⟨acts', conflicts', conflict'', hrun', hrow'', hall, hwaits, hkeys, hothers'⟩ :=
        ih { db with conflicts } conflict' hrow' hinspected' hrest
      refine ⟨acts ++ acts', conflicts', conflict'', run_append_eq_some.mpr
        ⟨_, hrun, hrun'⟩, hrow'',
        hall, hwaits, fun n => (hkeys n).trans ?_, fun k hk => (hothers' k hk).trans (hothers k hk)⟩
      rw [hsources n]
      split
      next hn => simp [hn, hsource]
      · rfl
    · refine ih db conflict hrow hinspected fun n e he hnot => ?_
      refine (List.mem_cons.mp (hnodes n e he hnot)).resolve_left fun hn => hpending ⟨e, ?_, hnot⟩
      rwa [← hn]

/-! ## A resolution under way -/

/-- A resolution of the conflict is live, the next execution can start, and its completion finds
what it needs. -/
def Pursued (c : RetryConfig) (db : Db) (conflictID : UUID) : Prop :=
  ∃ id w operationID operation conflict, Listed c db id w ∧ w.workflowType = .conflictResolution ∧
    (w.state = .scheduled ∨ w.state = .transferring ∨ w.state = .publishing ∨
      w.state = .retryWait) ∧
    db.resolutionOf id = some (operationID, operation) ∧ operation.conflictID = conflictID ∧
    Intact db id operation conflict

lemma Pursued.executes (h : Pursued c db conflictID) :
    ∃ act db' operation conflict, exitStep c db act = some db' ∧ operation.conflictID = conflictID ∧
      db.conflicts.get? conflictID = some conflict ∧ Resolved db operation db' := by
  obtain ⟨id, w, operationID, operation, conflict, hlisted, htype, hstate, hoperation, rfl,
    hintact⟩ := h
  obtain ⟨now, db', hexecute, hresolved⟩ :=
    hlisted.resolution_succeeds (c := c) htype hstate hoperation hintact
  exact ⟨.work (.executeResolution id answeredResolution now), db', operation, conflict,
    exitStep_work rfl hexecute, rfl, hintact.row, hresolved⟩

lemma Resolved.row {operation : ResolutionOperation} (h : Resolved db operation db')
    (hrow : db.conflicts.get? operation.conflictID = some conflict) :
    db'.conflicts.get? operation.conflictID =
      some { conflict with state := .resolved, version := conflict.version + 1 } := by
  rw [h.conflicts, get?_modify_self, hrow, map_some]

lemma Pursued.canResolve (h : Pursued c db conflictID) : CanResolve c db conflictID := by
  obtain ⟨act, db', operation, conflict, hstep, rfl, hrow, hresolved⟩ := h.executes (c := c)
  exact ⟨[act], db', _, run_exit hstep, hresolved.row hrow, rfl⟩

structure Decided (db : Db) (conflictID : UUID) (conflict : ReplicaConflict)
    (id operationID : UUID) (w : Workflow) (operation : ResolutionOperation)
    (manifest : SnapshotManifest) : Prop where
  submitted : db.resolutionOf id = some (operationID, operation)
  ofConflict : operation.conflictID = conflictID
  row : db.workflows.get? id = some w
  type : w.workflowType = .conflictResolution
  sources : 2 ≤ conflict.sources.count fun _ e => e = .ready
  result : db.manifests.get? operation.resultSnapshotID = some manifest
  ofWorkflow : manifest.workflowID = id
  stage : (w.state = .scheduled ∨ w.state = .transferring ∨ w.state = .publishing ∨
      w.state = .retryWait) ∧ Resumable w ∧ conflict.state = .resolving ∧
        manifest.state = .building ∨
    w.state = .failed ∧ conflict.state = .awaitingDecision ∧ manifest.state = .invalid ∧
      db.liveWorkflow = false

section

variable {id operationID : UUID} {w : Workflow} {operation : ResolutionOperation}
  {manifest : SnapshotManifest}

lemma served_of_resolution (htype : w.workflowType = .conflictResolution)
    (hserved : ResolutionServed c db id) : Served c db id w where
  job := by
    obtain ⟨operationID, operation, base, hoperation, -⟩ := hserved
    rw [htype, executionJob, hoperation]
    rfl
  snapshot := fun h => by rw [htype] at h; cases h
  restore := fun h => by rw [htype] at h; cases h
  resolution := fun _ => hserved

section

variable (h : Decided db conflictID conflict id operationID w operation manifest)
  (hfrozen : FrozenBy db conflictID conflict) (hserved : ResolutionServed c db id)
  (hactive : db.activeGeneration.isSome)
include h hfrozen hserved hactive

lemma Decided.pursued_of_live
    (hstate : w.state = .scheduled ∨ w.state = .transferring ∨ w.state = .publishing ∨
      w.state = .retryWait) (hresumable : Resumable w) (hresolving : conflict.state = .resolving)
    (hbuilding : manifest.state = .building) :
    ∃ acts db₁, run (exitStep c) db acts = some db₁ ∧ Pursued c db₁ conflictID ∧
      OthersClosed conflictID db₁ := by
  have hlive : w.state.live := by rcases hstate with hs | hs | hs | hs <;> rw [hs] <;> rfl
  have hserved := served_of_resolution h.type hserved
  have hintact : ∀ workflows, Intact { db with workflows } id operation conflict := fun workflows =>
    ⟨hfrozen.user, h.ofConflict ▸ hfrozen.row, hresolving, h.sources,
      ⟨manifest, h.result, h.ofWorkflow, hbuilding⟩⟩
  cases hcurrent : db.isCurrent w with
  | true =>
    have hlisted : Listed c db id w :=
      ⟨h.row, hlive, hcurrent, hserved, hresumable, .inl h.type⟩
    exact ⟨[], db, run_nil db, ⟨id, w, operationID, operation, conflict, hlisted, h.type, hstate,
      h.submitted, h.ofConflict, hintact db.workflows⟩, hfrozen.others⟩
  | false =>
    have hattended : Attended c db id w :=
      ⟨hactive, hserved, hresumable, .inl h.type, fun _ => hstate⟩
    obtain ⟨w', workflows, hstep, hlisted, -, htype', hscheduled⟩ :=
      adoptResolution_listed (c := c) h.row hattended h.type hcurrent
    have hadopt : exitStep c db (.work (.adoptResolution id false 0)) =
        some { db with workflows } :=
      exitStep_work rfl hstep
    exact ⟨_, _, run_exit hadopt, ⟨id, w', operationID, operation, conflict, hlisted, htype',
      .inl hscheduled, h.submitted, h.ofConflict, hintact workflows⟩, hfrozen.others⟩

lemma Decided.pursued_of_failed (hfailed : w.state = .failed)
    (hwaits : conflict.state = .awaitingDecision) (hinvalid : manifest.state = .invalid)
    (hidle : db.liveWorkflow = false) :
    ∃ acts db₁, run (exitStep c) db acts = some db₁ ∧ Pursued c db₁ conflictID ∧
      OthersClosed conflictID db₁ := by
  obtain ⟨generation, hgeneration⟩ := isSome_iff_exists.mp hactive
  obtain ⟨hoperation, hlinked⟩ := of_find?_eq_some h.submitted
  have hlinked : operation.workflowID = id := of_decide_eq_true hlinked
  obtain rfl := h.ofConflict
  have hrestart : exitStep c db (.store (.restartConflictResolution operationID)) =
      some (reviveResolution operation w conflict manifest generation db) := by
    refine exitStep_store rfl ?_
    refine ok_need hoperation ?_
    refine ok_need (hlinked ▸ h.row) ?_
    refine ok_need hfrozen.row ?_
    refine ok_require ⟨hfailed, hfrozen.user.1, hfrozen.user.2, hwaits⟩ ?_
    refine ok_need hgeneration ?_
    refine ok_need h.result ?_
    exact ok_require hinvalid (ok_require hidle rfl)
  subst hlinked
  refine ⟨_, _, run_exit hrestart, ?_, fun k other hother hne => ?_⟩
  · refine ⟨operation.workflowID, _, operationID, operation,
      { conflict with state := .resolving, version := conflict.version + 1 },
      ⟨get?_put_self .., rfl, ?_, ?_, fun hwaits => ?_, .inl h.type⟩, h.type, .inl rfl,
      h.submitted, rfl, ?_⟩
    · simp [isCurrent, reviveResolution, hgeneration]
    · exact served_of_resolution h.type hserved
    · cases hwaits
    · exact ⟨hfrozen.user, get?_put_self .., rfl, h.sources,
        ⟨_, get?_put_self .., h.ofWorkflow, rfl⟩⟩
  · rw [reviveResolution, get?_put_of_ne hne] at hother
    exact hfrozen.others k other hother hne

lemma Decided.pursued : ∃ acts db₁, run (exitStep c) db acts = some db₁ ∧ Pursued c db₁ conflictID ∧
      OthersClosed conflictID db₁ := by
  rcases h.stage with ⟨hstate, hresumable, hresolving, hbuilding⟩ |
    ⟨hfailed, hwaits, hinvalid, hidle⟩
  · exact h.pursued_of_live hfrozen hserved hactive hstate hresumable hresolving hbuilding
  · exact h.pursued_of_failed hfrozen hserved hactive hfailed hwaits hinvalid hidle

end

end

lemma Decided.not_held {id operationID : UUID} {w : Workflow} {operation : ResolutionOperation}
    {manifest : SnapshotManifest}
    (h : Decided db conflictID conflict id operationID w operation manifest) (hone : db.OneLive) :
    heldRestore db = false := by
  refine Table.any_eq_false.mpr fun k v hv => ?_
  rcases h.stage with ⟨hstate, -⟩ | ⟨-, -, -, hidle⟩
  · have hlive : w.state.live := by rcases hstate with hs | hs | hs | hs <;> rw [hs] <;> rfl
    cases hvlive : v.state.live with
    | false => simp
    | true =>
      obtain rfl := hone k id v w hv h.row hvlive hlive
      obtain rfl := mem_unique hv h.row
      simp [h.type]
  · simp [Table.any_eq_false.mp hidle k v hv]

/-! ## The choice -/

structure Unused (db : Db) (operationID workflowID snapshotID : UUID) : Prop where
  operation : db.resolutions.get? operationID = none
  workflow : db.workflows.get? workflowID = none
  operations : db.workflows.all (fun _ w => w.operationID ≠ operationID)
  snapshot : db.manifests.get? snapshotID = none

def choice (conflictID operationID workflowID snapshotID : UUID) (base : NodeID)
    (conflict : ReplicaConflict) : CreateConflictResolutionParams where
  operationID := operationID
  requestDigest := 0
  workflowID := workflowID
  conflictID := conflictID
  resultSnapshotID := snapshotID
  expectedConflictVersion := conflict.version
  baseNodeID := base
  transfers := conflict.sources.keys.erase base
  now := 0

structure Choosable (c : RetryConfig) (db : Db) (conflictID : UUID) (conflict : ReplicaConflict)
    (base : NodeID) : Prop where
  user : db.user.globalStatus = .conflict ∧ db.user.legacyStatus = .conflict
  lease : ∀ l, db.lease = some l → l.state = .conflict
  row : db.conflicts.get? conflictID = some conflict
  unresolved : ∀ operationID o, db.resolutions.get? operationID = some o → o.conflictID ≠ conflictID
  waits : conflict.state = .awaitingDecision
  all : conflict.sources.all (fun _ e => e = .ready)
  cover : db.sourcesCover conflict
  quiet : db.lease.all (fun l => !l.inFlight)
  idle : db.liveWorkflow = false
  path : (db.nodes.get? base).any fun b => b.transferURL ≠ "" || c.relayAvailable &&
    conflict.sources.all fun n _ => (db.nodes.get? n).all fun node => delivers node b
  source : (conflict.sources.get? base).isSome
  base : canBeBase db base
  two : 2 ≤ conflict.sources.keys.length
  serving : ∀ n, (conflict.sources.get? n).isSome →
    (db.nodes.get? n).any snapshotNodeReady

section

variable {operationID workflowID snapshotID : UUID} {base : NodeID} {generation : ℤ}
  (h : Choosable c db conflictID conflict base)
include h

lemma Choosable.ready {n : NodeID} (hn : (conflict.sources.get? n).isSome) :
    conflict.sources.get? n = some .ready := by
  obtain ⟨e, he⟩ := isSome_iff_exists.mp hn
  rw [he, of_all h.all he]

lemma Choosable.created (hactive : db.activeGeneration = some generation)
    (hunused : Unused db operationID workflowID snapshotID) : step db (.createConflictResolution
      (choice conflictID operationID workflowID snapshotID base conflict)) =
      some (insertConflictResolution
        (choice conflictID operationID workflowID snapshotID base conflict) conflict generation
        db) := by
  have hmem : base ∈ conflict.sources.keys := mem_keys_iff.mpr h.source
  obtain ⟨node, hnode, hbase⟩ := (Option.any_eq_true _ _).mp h.base
  simp only [Bool.and_eq_true, decide_eq_true_eq] at hbase
  have hfrozen : db.leaseFrozen := by
    cases hl : db.lease with
    | none => simp [leaseFrozen, hl]
    | some l =>
      have hquiet := h.quiet
      simp_all [leaseFrozen, h.lease l hl]
  rw [step_eq_some, Act.transaction, createConflictResolution, choice, hunused.operation]
  refine ok_require ⟨conflict.sources.keys_nodup.erase base, fun hin =>
    (conflict.sources.keys_nodup.mem_erase_iff.mp hin).1 rfl⟩ ?_
  refine ok_need hactive ?_
  refine ok_need h.row ?_
  refine ok_require h.user ?_
  refine ok_require ⟨h.waits, rfl⟩ ?_
  refine ok_require ⟨h.all, h.cover⟩ ?_
  refine ok_require hfrozen ?_
  refine ok_require (Table.all_eq_true.mpr fun k o ho => decide_eq_true (h.unresolved k o ho)) ?_
  refine ok_need hnode ?_
  refine ok_require ⟨h.ready h.source, hbase.1.1, hbase.1.2, hbase.2⟩ ?_
  refine ok_require ⟨h.two, List.length_erase_add_one hmem⟩ ?_
  refine ok_require (List.all_eq_true.mpr fun n hn => decide_eq_true
    (h.ready (mem_keys_iff.mp (List.mem_of_mem_erase hn)))) ?_
  refine ok_require ⟨?_, isNone_iff_eq_none.mpr hunused.snapshot⟩ rfl
  simp only [acceptsWorkflow, Bool.and_eq_true, Bool.not_eq_true']
  exact ⟨⟨isNone_iff_eq_none.mpr hunused.workflow, hunused.operations⟩, h.idle⟩

lemma Choosable.pursued (hactive : db.activeGeneration = some generation) :
    Pursued c (insertConflictResolution
      (choice conflictID operationID workflowID snapshotID base conflict) conflict generation db)
      conflictID := by
  obtain ⟨node, hnode, hbase⟩ := (Option.any_eq_true _ _).mp h.base
  simp only [Bool.and_eq_true, decide_eq_true_eq] at hbase
  have hready : snapshotNodeReady node := by
    have hserving := h.serving base h.source
    rwa [hnode, Option.any_some] at hserving
  have hpath := h.path
  rw [hnode, Option.any_some, Bool.or_eq_true, Bool.and_eq_true] at hpath
  let operation : ResolutionOperation :=
    { requestDigest := 0, workflowID, conflictID, baseNodeID := base, resultSnapshotID := snapshotID
      transfers := (conflict.sources.keys.erase base).foldl (fun t node => t.put node .prepared) ∅
      completedAt := none }
  have hoperation : (insertConflictResolution
      (choice conflictID operationID workflowID snapshotID base conflict) conflict generation
      db).resolutionOf workflowID = some (operationID, operation) :=
    find?_put_self (decide_eq_true rfl)
  have hpending : ((pendingSources operation).all fun n =>
      (db.nodes.get? n).any fun n => snapshotNodeReady n && delivers n node) := by
    refine List.all_eq_true.mpr fun n hn => ?_
    obtain ⟨transfer, htransfer, -⟩ := mem_pendingSources.mp hn
    rw [get?_foldl_put, get?_empty] at htransfer
    obtain ⟨hmem, -⟩ := ite_none_right_eq_some.mp htransfer
    have hsource := mem_keys_iff.mp (List.mem_of_mem_erase hmem)
    obtain ⟨source, hn, hsourceReady⟩ := (Option.any_eq_true _ _).mp (h.serving n hsource)
    rw [hn, Option.any_some, Bool.and_eq_true]
    refine ⟨hsourceReady, ?_⟩
    rcases hpath with haddress | ⟨-, hall⟩
    · simp [delivers, of_decide_eq_true haddress]
    · obtain ⟨e, he⟩ := isSome_iff_exists.mp hsource
      simpa [hn] using Table.all_eq_true.mp hall n e he
  refine ⟨workflowID, newWorkflow operationID .conflictResolution .ordinary base base db.leaseEpoch
    generation, operationID, operation,
    { conflict with state := .resolving, version := conflict.version + 1 }, ?_, rfl, .inl rfl,
    hoperation, rfl, ?_⟩
  · exact
      { row := get?_put_self .., live := rfl
        current := by simp [isCurrent, insertConflictResolution, newWorkflow, hactive]
        served := served_of_resolution rfl
          ⟨operationID, operation, node, hoperation, hnode, hbase.1.1, by
            rcases hpath with haddress | ⟨hrelay, -⟩
            · simp [of_decide_eq_true haddress]
            · simp [hrelay], hready, hpending⟩
        resumable := fun hwaits => by cases hwaits
        capability := .inl rfl }
  · exact
      { frozen := h.user, row := get?_put_self .., resolving := rfl
        sources := by
          rw [count_eq_length_keys h.all]
          exact h.two
        manifest := ⟨_, get?_put_self .., rfl, rfl⟩ }

end

/-! ## Which conflicts can be resolved -/

/-- The choice is still open: the evidence is recorded as the transactions record it, a workflow
that is still live is attended to and is no resolution, and the evidence has a path to every node
that can be the base. -/
structure ChoiceOpen (c : RetryConfig) (db : Db) (conflictID : UUID) (conflict : ReplicaConflict) :
    Prop extends Undecided db conflictID conflict where
  waits : conflict.sources.all (fun _ e => e = .ready) → conflict.sources.keys ≠ [] →
    conflict.state = .awaitingDecision
  works : conflict.sources.all (fun _ e => e = .ready) = false → conflict.state ≠ .awaitingDecision
  captured : conflict.state = .awaitingDecision → conflict.sourcesCaptured
  attended : ∀ id w, db.workflows.get? id = some w → w.state.live →
    w.workflowType ≠ .conflictResolution ∧ Attended c db id w ∧
      Supply db.capabilities (remaining c w + 1)
  paths : ∀ base b, hasEvidence db conflict base → db.nodes.get? base = some b →
    b.role = .compute → b.transferURL ≠ "" ∨ c.relayAvailable ∧
      ∀ n node, hasEvidence db conflict n → db.nodes.get? n = some node → delivers node b
  replicas : ∀ n r, db.replicas.get? n = some r → (db.nodes.get? n).isSome
  copies : ∀ n r, db.copies.get? n = some r → (db.nodes.get? n).isSome
  unused : ∃ fresh operationID workflowID snapshotID, db.conflicts.get? fresh = none ∧
    Unused db operationID workflowID snapshotID

section

variable (h : ChoiceOpen c db conflictID conflict)
include h

lemma ChoiceOpen.inspected (htwo : 2 ≤ (captureSources db conflict).sources.keys.length) :
    Inspected (captureSources db conflict) := by
  have hinspection : conflict.state ≠ .awaitingDecision →
      conflict.state = .detected ∨ conflict.state = .inspecting := by
    have hstate := h.state
    intro hnot
    cases hs : conflict.state <;> simp_all [beforeChoice]
  by_cases hcomplete : ∀ n, (db.nodes.get? n).isSome → db.isConflictSource n →
      (conflict.sources.get? n).isSome
  · rw [captureSources_of_complete hcomplete] at htwo ⊢
    refine ⟨fun hall => h.waits hall fun hnil => ?_, fun hnot => hinspection (h.works hnot)⟩
    simp [hnil] at htwo
  push Not at hcomplete
  obtain ⟨node, hnode, hsource, hnew⟩ := hcomplete
  have hnew : conflict.sources.get? node = none := by simpa using hnew
  have hpending : (captureSources db conflict).sources.get? node = some .pending := by
    rw [get?_captureSources]
    simp [hnode, hsource, hnew]
  refine ⟨fun hall => ?_, fun _ => ?_⟩
  · have hready := Table.all_eq_true.mp hall node .pending hpending
    cases of_decide_eq_true hready
  · rw [captureSources_state_of_missing hnode hsource hnew]
    split
    · exact .inr rfl
    next hnot => exact hinspection fun hwaits => hnot (h.captured hwaits)

lemma ChoiceOpen.cover {s : Db} (hcalm : Calm db s)
    (hsources : ∀ n, (conflict'.sources.get? n).isSome = hasEvidence db conflict n) :
    s.sourcesCover conflict' := by
  rw [sourcesCover, Bool.and_eq_true]
  constructor
  · refine Table.all_eq_true.mpr fun n r' hr' => ?_
    obtain ⟨r, hr, hbefore⟩ := hcalm.replicas.before hr'
    by_cases hconflict : r'.state = .conflict
    · simp [hsources, hasEvidence, h.replicas n r hr, isConflictSource, hr, hbefore hconflict]
    · simp [hconflict]
  · refine Table.all_eq_true.mpr fun n r' hr' => ?_
    by_cases hconflict : r'.state = .conflict
    · obtain ⟨r, hr, hevidence⟩ := (hcalm.copies n r' hr').1 (.inl hconflict)
      have hsource : db.isConflictSource n := isConflictSource_iff.mpr (.inl ⟨r, hr, hevidence⟩)
      simp [hsources, hasEvidence, h.copies n r hr, hsource]
    · simp [hconflict]

lemma ChoiceOpen.path {base : NodeID}
    (hsources : ∀ n, (conflict'.sources.get? n).isSome = hasEvidence db conflict n)
    (hbase : hasEvidence db conflict base) (heligible : canBeBase db base) :
    (db.nodes.get? base).any fun b => b.transferURL ≠ "" || c.relayAvailable &&
      conflict'.sources.all fun n _ => (db.nodes.get? n).all fun node => delivers node b := by
  obtain ⟨b, hb, hcompute⟩ := (Option.any_eq_true _ _).mp heligible
  simp only [Bool.and_eq_true, decide_eq_true_eq] at hcompute
  rw [hb, Option.any_some, Bool.or_eq_true, Bool.and_eq_true, decide_eq_true_eq]
  refine (h.paths base b hbase hb hcompute.1.1).imp_right fun ⟨hrelay, hall⟩ => ⟨hrelay, ?_⟩
  refine Table.all_eq_true.mpr fun n e he => ?_
  have hevidence : hasEvidence db conflict n := (hsources n).symm.trans (by rw [he]; rfl)
  cases hn : db.nodes.get? n with
  | none => rfl
  | some node => exact hall n node hevidence hn

lemma ChoiceOpen.undisturbed (hfrozen : FrozenBy db conflictID conflict) (hlinked : db.WellLinked) :
    Undisturbed db :=
  ⟨hlinked, hfrozen.user.1, fun id w hw hlive => (h.attended id w hw hlive).1⟩

omit h in
lemma Attended.swept {id : UUID} {w : Workflow} {conflicts : Table UUID ReplicaConflict}
    {protection : Option ProtectionState} {tickets : Table UUID ControlTicket}
    (h : Attended c db id w) : Attended c { db with conflicts, protection, tickets } id w :=
  { h with
    served :=
      { h.served with
        snapshot := fun htype => ⟨(h.served.snapshot htype).manifest,
          (h.served.snapshot htype).source, (h.served.snapshot htype).target⟩
        restore := fun htype => ⟨(h.served.restore htype).manifest,
          (h.served.restore htype).nodes, (h.served.restore htype).account⟩ } }

lemma ChoiceOpen.settles (hfrozen : FrozenBy db conflictID conflict) (hlinked : db.WellLinked)
    (hheld : heldRestore db = false) : ∃ acts protection tickets db',
      run (exitStep c) db acts = some db' ∧ db'.liveWorkflow = false ∧ Aside db db' ∧
      Calm { db with protection, tickets, conflicts := db.captureConflicts db.conflicts } db' := by
  obtain ⟨fresh, _, _, _, hfresh, -⟩ := h.unused
  obtain ⟨protection, tickets, hsweep⟩ := hfrozen.sweep 0 hfresh
  let swept : Db := { db with protection, tickets, conflicts := db.captureConflicts db.conflicts }
  have hswept : exitStep c db (.store (.reconcileProtectionStates 0 fresh)) = some swept :=
    exitStep_store rfl hsweep
  cases hlive : db.liveWorkflow with
  | false => exact ⟨_, protection, tickets, swept, run_exit hswept, hlive, ⟨rfl, rfl, rfl, rfl⟩,
      .refl swept⟩
  | true =>
    obtain ⟨id, w, hw, hlive⟩ := Table.any_eq_true.mp hlive
    obtain ⟨-, hattended, hsupply⟩ := h.attended id w hw hlive
    have hfree : w.workflowType = .restore → db.isCurrent w ∧ w.state ≠ .publishing := by
      intro htype
      have hrow := Table.any_eq_false.mp hheld id w hw
      simpa [hlive, htype] using hrow
    have hallows : Allows (fun db act => act.answered db) w :=
      ⟨fun _ _ hanswered => hanswered, fun htype hpublishing => absurd hpublishing (hfree htype).2⟩
    have hrow : swept.workflows.get? id = some w := hw
    have hcan : CanEndBy (fun db act => act.answered db) c swept id :=
      hattended.swept.canEnd hrow hlive hallows hsupply fun htype => (hfree htype).1
    obtain ⟨acts, db', hrun, hmeets, hended⟩ := hcan
    have hundisturbed : Undisturbed swept :=
      (h.toUndecided.swept hfrozen).2.undisturbed (h.undisturbed hfrozen hlinked)
        (wellLinked_of_storeStep hlinked hswept)
    obtain ⟨⟨acts', hrun'⟩, hexecutes⟩ : (∃ acts', run (exitStep c) db acts' = some db') ∧
        Executes swept db' := by
      refine run_invariant_of_meets (P := fun s => (∃ acts', run (exitStep c) db acts' = some s) ∧
        Executes swept s) (fun s act s' ⟨⟨acts', hacts'⟩, hs⟩ hanswered hstep => ?_)
        ⟨⟨_, run_exit hswept⟩, .refl swept⟩ hmeets hrun
      exact ⟨⟨_, run_append_eq_some.mpr ⟨s, hacts', run_exit (exitStep_work hanswered hstep)⟩⟩,
        hs.trans (executes_reconcilerStep hstep)⟩
    have hcalm := (hundisturbed.executes hexecutes).1
    refine ⟨acts', protection, tickets, db', hrun', ?_, { hexecutes.aside with }, hcalm⟩
    -- what is live afterwards was live before, and that workflow has ended
    refine Table.any_eq_false.mpr fun k v hv => ?_
    by_contra hvlive
    obtain ⟨v₀, hv₀, hcontinues⟩ := hcalm.workflows.before hv
    obtain rfl := hlinked.oneLive k id v₀ w hv₀ hw (hcontinues.live (by simpa using hvlive)) hlive
    exact hvlive (hended v hv)

lemma ChoiceOpen.choosable (hfrozen : FrozenBy db conflictID conflict) (hlinked : db.WellLinked)
    (hheld : heldRestore db = false) (hexit : exitOpen db conflictID conflict)
    (hserving : ∀ n, hasEvidence db conflict n → (db.nodes.get? n).any snapshotNodeReady) :
    ∃ acts db' conflict' base operationID workflowID snapshotID,
      run (exitStep c) db acts = some db' ∧ Choosable c db' conflictID conflict' base ∧
      Unused db' operationID workflowID snapshotID ∧ OthersClosed conflictID db' ∧
      db'.activeGeneration = db.activeGeneration := by
  obtain ⟨-, operationID, workflowID, snapshotID, -, hunused⟩ := h.unused
  obtain ⟨hquiet, htwo, base, hbase, heligible⟩ :
      db.lease.all (fun l => !l.inFlight) ∧
        2 ≤ (captureSources db conflict).sources.keys.length ∧
        ∃ node, hasEvidence db conflict node ∧ canBeBase db node := by
    rcases exitOpen_eq_true.mp hexit with hdecided | hopen
    · obtain ⟨k, o, ho, hconflict⟩ := Table.any_eq_true.mp hdecided
      exact absurd (of_decide_eq_true hconflict) (h.unresolved k o ho)
    · exact hopen
  -- the sweep captures what is missing, what is live ends, and the evidence is taken
  obtain ⟨acts, protection, tickets, db₁, hrun, hidle, haside, hcalm⟩ :=
    h.settles hfrozen hlinked hheld
  have hfrozen₁ := hcalm.frozenBy (h.toUndecided.swept hfrozen).1
  obtain ⟨acts', conflicts, conflict', hrun', hrow, hall, hwaits, hsources, hothers⟩ :=
    all_evidence_taken (c := c) (captureSources db conflict).sources.keys db₁
      (captureSources db conflict) hfrozen₁.row (h.inspected htwo)
      fun n e he _ => mem_keys_iff.mpr (isSome_iff_exists.mpr ⟨e, he⟩)
  have hkeys : ∀ n, (conflict'.sources.get? n).isSome = hasEvidence db conflict n := fun n =>
    (hsources n).trans (isSome_captureSources db conflict n)
  have hcalm' : Calm db { db₁ with conflicts := db.conflicts } :=
    { hcalm with conflicts := rfl }
  have hcover := h.cover hcalm' hkeys
  have hnodes : db₁.nodes = db.nodes := haside.nodes
  refine ⟨acts ++ acts', { db₁ with conflicts }, conflict', base, operationID, workflowID,
    snapshotID, run_append_eq_some.mpr ⟨db₁, hrun, hrun'⟩, ?_, ?_, ?_, haside.generation⟩
  · exact
      { user := hfrozen₁.user, lease := hfrozen₁.lease, row := hrow
        unresolved := hcalm.resolutions ▸ h.unresolved
        waits := hwaits, all := hall
        cover := hcover
        quiet := by rw [hcalm.lease]; exact hquiet
        idle := hidle
        source := (hkeys base).trans hbase
        base := by rw [canBeBase, hnodes]; exact heligible
        two := Nat.le_trans htwo (length_keys_le fun n hn => (hsources n).trans hn)
        serving := fun n hn => by rw [hnodes]; exact hserving n ((hkeys n).symm.trans hn)
        path := by rw [hnodes]; exact h.path hkeys hbase heligible }
  · exact
      { operation := by rw [hcalm.resolutions]; exact hunused.operation
        workflow := by
          by_contra hsome
          obtain ⟨w', hw'⟩ := ne_none_iff_exists'.mp hsome
          obtain ⟨w, hw, -⟩ := hcalm.workflows.before hw'
          simp [hunused.workflow] at hw
        operations := Table.all_eq_true.mpr fun k w' hw' => by
          obtain ⟨w, hw, hcontinues⟩ := hcalm.workflows.before hw'
          rw [hcontinues.operation]
          exact Table.all_eq_true.mp hunused.operations k w hw
        snapshot := hcalm.manifests snapshotID hunused.snapshot }
  · intro k other hother hne
    exact hfrozen₁.others k other ((hothers k hne).symm.trans hother) hne

lemma ChoiceOpen.pursued (hfrozen : FrozenBy db conflictID conflict) (hlinked : db.WellLinked)
    (hactive : db.activeGeneration.isSome) (hheld : heldRestore db = false)
    (hexit : exitOpen db conflictID conflict)
    (hserving : ∀ n, hasEvidence db conflict n → (db.nodes.get? n).any snapshotNodeReady) :
    ∃ acts db₁, run (exitStep c) db acts = some db₁ ∧ Pursued c db₁ conflictID ∧
      OthersClosed conflictID db₁ := by
  obtain ⟨generation, hgeneration⟩ := isSome_iff_exists.mp hactive
  obtain ⟨acts, db', conflict', base, operationID, workflowID, snapshotID, hrun, hchoosable,
    hunused, hothers, hkept⟩ := h.choosable hfrozen hlinked hheld hexit hserving
  rw [← hkept] at hgeneration
  have hcreated : exitStep c db' (.store (.createConflictResolution
      (choice conflictID operationID workflowID snapshotID base conflict'))) = some _ :=
    exitStep_store rfl (step_eq_some.mp (hchoosable.created hgeneration hunused))
  refine ⟨_, _, run_append_eq_some.mpr ⟨db', hrun, run_exit hcreated⟩,
    hchoosable.pursued hgeneration, fun k other hother hne => ?_⟩
  exact hothers k other ((get?_put_of_ne hne).symm.trans hother) hne

end

/-- An account of the user is found on node `2`, and a sweep opens the conflict. -/
def frozenByImport : List Act :=
  [ .linkImportCandidate 2 "user" false 120, .reconcileProtectionStates 130 90 ]

def importedDb : Db := (run step sampleDb frozenByImport).getD sampleDb

def importedConflict : ReplicaConflict :=
  (importedDb.conflicts.get? 90).get (by decide +kernel)

lemma importedDb_choiceOpen :
    ChoiceOpen ⟨5, 1, by decide, false⟩ importedDb 90 importedConflict where
  toUndecided := by decide +kernel
  waits := by decide +kernel
  works := by decide +kernel
  captured := by decide +kernel
  attended := fun id w hw hlive => by
    have hidle : importedDb.liveWorkflow = false := by decide +kernel
    simp [Table.any_eq_false.mp hidle id w hw] at hlive
  paths := fun base b _ hb _ => .inl (by
    have haddresses : ∀ n node, importedDb.nodes.get? n = some node → node.transferURL ≠ "" := by
      decide +kernel
    exact haddresses base b hb)
  replicas := by decide +kernel
  copies := by decide +kernel
  unused := ⟨91, 92, 93, 94, by decide +kernel, by decide +kernel, rfl, by decide +kernel, rfl⟩

lemma importedDb_serving {n : NodeID} (hn : hasEvidence importedDb importedConflict n) :
    (importedDb.nodes.get? n).any snapshotNodeReady := by
  have hsources : ∀ n e, importedConflict.sources.get? n = some e →
      (importedDb.nodes.get? n).any snapshotNodeReady := by decide +kernel
  have hnodes : ∀ n node, importedDb.nodes.get? n = some node → snapshotNodeReady node := by
    decide +kernel
  rw [hasEvidence, Bool.or_eq_true, Bool.and_eq_true] at hn
  rcases hn with hsource | ⟨hnode, -⟩
  · obtain ⟨e, he⟩ := isSome_iff_exists.mp hsource
    exact hsources n e he
  · obtain ⟨node, hnode⟩ := isSome_iff_exists.mp hnode
    rw [hnode, Option.any_some]
    exact hnodes n node hnode

/-- The user works on node `1` and a request is in flight when an account is found on node `2`. -/
def frozenInFlight : List Act :=
  [ .createLoginHandoff (sampleLogin 60 1 100), .updateActivityLeaseTelemetry
      { fence := ⟨1, 60, 1, 1⟩, lastPageHeartbeatAt := some 110, lastRequestAt := some 110
        inFlightReads := 0, inFlightWrites := 1, online := true, now := 110, ttl := 600 } ] ++
  frozenByImport

/-- The user has an account on node `2` without a replica row, as users of older controllers have,
and writes there in independent mode; a sweep opens the conflict. -/
def frozenByWriter : List Act :=
  [ .environment (.account 2
      { localHandle := "user", status := .active, accountVersion := 1,
        hasPasswordMaterial := true }),
    .environment (.node 2 drainingCompute),
    .recordIndependentSyncFact 70 2 "user" 71 1,
    .reconcileProtectionStates 130 90 ]

/-- The archive of a lost home is restored to node `2`, which has published it when the home comes
back and an account of the user is found on node `4`. -/
def frozenInRestore : List Act :=
  sampleTransfer 50 1 3 .archive 10 ++ [.completeSnapshotWorkflow archiveCompletion] ++ homeLost ++
  [.createRestoreWorkflow sampleRestore] ++ sampleRestoreTransfer ++
  [ .environment (.node 1 sampleCompute), .environment (.node 4 sampleCompute),
    .linkImportCandidate 4 "user" false 1010, .reconcileProtectionStates 1020 90 ]

end StControl.Controller
