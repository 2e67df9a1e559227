import StControl.Store.Writes

/-!
# Recovery waits for the freeze

The controller claims a reported data fault, has the node of the fault freeze the directory of the
user, and records once the node has confirmed whether there is something to recover from.  A
takeover and a restore look at the faults in the transaction that moves the home, so it does not
matter whether a fault was reported before or after the recovery was begun.
-/

namespace StControl.Store

open Transaction Run Option Table

/-! ## Freezing the directory of a fault -/

/-- The columns of `user_data_faults` that only the freeze reads. -/
structure FaultFreeze where
  freezeOperationID : Option UUID := none
  leaseOwner : Option UUID := none
  leaseUntil : Option Time := none
  nextAttemptAt : Option Time := none

/-- The tables, with the freezes under way and the receipts of the agents: fault, node and freeze
operation. -/
structure FaultSystem where
  db : Db
  freezes : Table UUID FaultFreeze
  confirmed : List (UUID × NodeID × UUID)

structure FreezeCall where
  (faultID freezeOperationID workerID : UUID)
  now : Time

variable (s : FaultSystem)

def FaultSystem.update (id : UUID) (p : UserDataFault → FaultFreeze → Bool)
    (f : UserDataFault → FaultFreeze → UserDataFault × FaultFreeze) : Option FaultSystem := do
  let fault ← s.db.faults.get? id
  let freeze := (s.freezes.get? id).getD {}
  if p fault freeze then
    some { s with
      db.faults := s.db.faults.put id (f fault freeze).1
      freezes := s.freezes.put id (f fault freeze).2 }
  else none

section

variable (c : FreezeCall)

def claimUserDataFault (leaseTTL : Duration) : Option FaultSystem := do
  let generation ← s.db.activeGeneration
  s.update c.faultID
    (fun fault freeze => fault.state = .reported ||
      fault.state = .retryWait && freeze.nextAttemptAt.any (· ≤ c.now) ||
      fault.state = .freezing && freeze.leaseUntil.any (· ≤ c.now))
    fun fault freeze =>
      ({ fault with state := .freezing, controllerGeneration := generation },
       { freezeOperationID :=
          if fault.controllerGeneration ≠ generation then some c.freezeOperationID
          else freeze.freezeOperationID.orElse fun _ => some c.freezeOperationID
         leaseOwner := some c.workerID, leaseUntil := some (c.now + leaseTTL) })

def FaultSystem.holds (fault : UserDataFault) (freeze : FaultFreeze) : Bool :=
  fault.state = .freezing && s.db.activeGeneration = some fault.controllerGeneration &&
    freeze.freezeOperationID = some c.freezeOperationID && freeze.leaseOwner = some c.workerID &&
    freeze.leaseUntil.any (c.now < ·)

/-- `CompleteUserDataFaultFreeze`, which `executeUserDataFault` calls with the receipt of the
node. -/
def completeUserDataFaultFreeze : Option FaultSystem := do
  let protection ← s.db.protection
  s.update c.faultID
    (fun fault freeze =>
      (c.faultID, fault.nodeID, c.freezeOperationID) ∈ s.confirmed && s.holds c fault freeze)
    fun fault freeze =>
      ({ fault with
         state :=
          if protection.state = .takeoverAvailable ∨ protection.state = .restoreRequired then
            .recoveryAvailable
          else .recoveryUnavailable },
       { freezeOperationID := freeze.freezeOperationID })

def retryUserDataFault (retryAfter : Duration) : Option FaultSystem :=
  s.update c.faultID (s.holds c) fun fault freeze => ({ fault with state := .retryWait },
    { freezeOperationID := freeze.freezeOperationID, nextAttemptAt := some (c.now + retryAfter) })

end

/-- `CompleteUserDataFaultRelease`; the columns of the release are not modelled. -/
def completeUserDataFaultRelease (faultID : UUID) : Option FaultSystem :=
  s.update faultID (fun fault _ => fault.state = .resolved)
    fun fault freeze => ({ fault with released := true }, freeze)

inductive FaultAct
  | store (act : Act)
  | claim (c : FreezeCall) (leaseTTL : Duration)
  | confirm (nodeID : NodeID) (faultID freezeOperationID : UUID)
  | completeFreeze (c : FreezeCall)
  | retry (c : FreezeCall) (retryAfter : Duration)
  | completeRelease (faultID : UUID)

def Act.setsFault : Act → Bool
  | .environment (.fault ..) => true
  | _ => false

def faultStep : FaultAct → Option FaultSystem
  | .store act => if act.setsFault then none else (step s.db act).map fun db => { s with db }
  | .claim c leaseTTL => claimUserDataFault s c leaseTTL
  | .confirm nodeID faultID freezeOperationID =>
    some { s with confirmed := (faultID, nodeID, freezeOperationID) :: s.confirmed }
  | .completeFreeze c => completeUserDataFaultFreeze s c
  | .retry c retryAfter => retryUserDataFault s c retryAfter
  | .completeRelease faultID => completeUserDataFaultRelease s faultID

/-! ## The open faults of a recovery -/

def FaultSystem.Confirmed (faultID : UUID) (fault : UserDataFault) : Prop :=
  ∃ freezeOperationID, (faultID, fault.nodeID, freezeOperationID) ∈ s.confirmed

def FaultSystem.Sound : Prop :=
  ∀ id fault, s.db.faults.get? id = some fault → fault.state = .recoveryAvailable →
    s.Confirmed id fault

variable {s s' : FaultSystem} {act : Act} {db db' : Db} {id : UUID} {fault : UserDataFault}

lemma FaultSystem.Sound.update {p : UserDataFault → FaultFreeze → Bool}
    {f : UserDataFault → FaultFreeze → UserDataFault × FaultFreeze} (h : s.Sound)
    (hupdate : s.update id p f = some s')
    (hrow : ∀ fault freeze, s.db.faults.get? id = some fault → p fault freeze →
      (f fault freeze).1.state = .recoveryAvailable → s.Confirmed id (f fault freeze).1) :
    s'.Sound := by
  obtain ⟨fault, hfault, hupdate⟩ := bind_eq_some_iff.mp hupdate
  obtain ⟨hp, rfl⟩ := of_guarded hupdate
  intro id' fault' hfault' hstate
  obtain ⟨rfl, rfl⟩ | hkept := of_get?_put hfault'
  · exact hrow fault _ hfault hp hstate
  · exact h id' fault' hkept hstate

def Act.recovers : Act → Bool
  | .confirmReplicaTakeover _ | .completeRestoreWorkflow _ => true
  | _ => false

lemma recovers_commit (hact : act.recovers) : Ensures (act.transaction db) fun db' => db' = db ∨
      db.faultRecoveryReady ∧ db'.faults = resolveUserDataFault db.faults := by
  cases act with
  | confirmReplicaTakeover p =>
    refine confirmReplicaTakeover_commit.mono ?_
    rintro db' (rfl | ⟨_, _, _, hp, rfl⟩)
    · exact .inl rfl
    · exact .inr ⟨hp.faults, rfl⟩
  | completeRestoreWorkflow p =>
    refine completeRestoreWorkflow_commit.mono ?_
    rintro db' (⟨rfl, -⟩ | ⟨_, _, _, _, hp, rfl⟩)
    · exact .inl rfl
    · exact .inr ⟨hp.faults, rfl⟩
  | _ => cases hact

lemma of_faultStep_store (hstep : faultStep s (.store act) = some s') :
    act.setsFault = false ∧ ∃ db, act.transaction s.db = .ok db ∧ { s with db } = s' := by
  obtain ⟨hset, hstep⟩ := ite_none_left_eq_some.mp hstep
  obtain ⟨db, hdb, hs'⟩ := map_eq_some_iff.mp hstep
  exact ⟨by simpa using hset, db, step_eq_some.mp hdb, hs'⟩

lemma available_of_transaction (hset : act.setsFault = false) (hok : act.transaction db = .ok db')
    (hfault : db'.faults.get? id = some fault) (hstate : fault.state = .recoveryAvailable) :
    db.faults.get? id = some fault := by
  by_cases hrecovers : act.recovers
  · obtain rfl | ⟨-, hfaults⟩ := recovers_commit hrecovers db' hok
    · exact hfault
    rw [hfaults, resolveUserDataFault, get?_update] at hfault
    obtain ⟨before, hbefore, rfl⟩ := map_eq_some_iff.mp hfault
    split at hstate
    · cases hstate
    next hother => rwa [if_neg hother]
  by_cases hwrites : act.writesFaults = false
  · exact (tables_kept db' hok).faults hwrites ▸ hfault
  obtain ⟨p, rfl⟩ : ∃ p, act = .reportUserDataFault p := by
    cases act with
    | reportUserDataFault p => exact ⟨p, rfl⟩
    | environment w => cases w <;> first | cases hwrites rfl | cases hset
    | _ => first | cases hwrites rfl | cases hrecovers rfl
  obtain rfl | ⟨home, generation, -, rfl⟩ := reportUserDataFault_commit db' hok
  · exact hfault
  obtain ⟨-, rfl⟩ | hkept := of_get?_put hfault
  · cases hstate
  · exact hkept

lemma FaultSystem.Sound.step {a : FaultAct} (h : s.Sound) (hstep : faultStep s a = some s') :
    s'.Sound := by
  cases a with
  | store act =>
    obtain ⟨hset, db, hok, rfl⟩ := of_faultStep_store hstep
    exact fun id fault hfault hstate =>
      h id fault (available_of_transaction hset hok hfault hstate) hstate
  | claim c leaseTTL =>
    obtain ⟨generation, -, hstep⟩ := bind_eq_some_iff.mp hstep
    exact h.update hstep fun _ _ _ _ => nofun
  | confirm nodeID faultID freezeOperationID =>
    cases hstep
    intro id fault hfault hstate
    obtain ⟨operationID, hmem⟩ := h id fault hfault hstate
    exact ⟨operationID, .tail _ hmem⟩
  | completeFreeze c =>
    obtain ⟨protection, -, hstep⟩ := bind_eq_some_iff.mp hstep
    refine h.update hstep fun fault freeze _ hp _ => ⟨c.freezeOperationID, ?_⟩
    exact of_decide_eq_true (Bool.and_eq_true_iff.mp hp).1
  | retry c retryAfter =>
    unfold faultStep retryUserDataFault at hstep
    exact h.update hstep fun _ _ _ _ => nofun
  | completeRelease faultID =>
    unfold faultStep completeUserDataFaultRelease at hstep
    exact h.update hstep fun fault _ hfault _ => h faultID fault hfault

/-- **Recovery waits for the freeze.**  In every run, a takeover or a restore that is completed, and
not answered by its record, finds that the node of every open fault has confirmed the freeze.  It
resolves the open faults and leaves the others as they are. -/
theorem recovery_waits_for_freeze {start : Db} {acts : List FaultAct} (hstart : start.faults = ∅)
    (hrun : run faultStep ⟨start, ∅, []⟩ acts = some s) (hact : act.recovers)
    (hstep : faultStep s (.store act) = some s') : s' = s ∨
      (∀ id fault, s.db.faults.get? id = some fault → fault.state ≠ .resolved →
        s.Confirmed id fault) ∧ ∀ id, s'.db.faults.get? id = (s.db.faults.get? id).map fun fault =>
        if fault.state ≠ .resolved then { fault with state := .resolved, released := false }
        else fault := by
  have hsound : s.Sound := run_invariant (fun _ _ _ h hstep => h.step hstep)
    (by simp [FaultSystem.Sound, hstart]) hrun
  obtain ⟨-, db, hok, rfl⟩ := of_faultStep_store hstep
  obtain rfl | ⟨hready, hfaults⟩ := recovers_commit hact db hok
  · exact .inl rfl
  have hopen : ∀ id fault, s.db.faults.get? id = some fault → fault.state ≠ .resolved →
      fault.state = .recoveryAvailable := by
    intro id fault hfault hstate
    simpa [hstate] using all_eq_true.mp hready id fault hfault
  refine .inr ⟨fun id fault hfault hstate =>
    hsound id fault hfault (hopen id fault hfault hstate), fun id => ?_⟩
  rw [hfaults, resolveUserDataFault, get?_update]
  refine Option.map_congr fun fault hfault => ?_
  by_cases hstate : fault.state = .resolved
  · simp [hstate]
  · simp [hopen id fault hfault hstate]

def sampleFault : List FaultAct :=
  (sampleTransfer 50 1 2 .hotStandby 10 ++ [sampleCompletion 50 2 .hotStandby 15,
    .reportUserDataFault
      { operationID := 80, requestDigest := 0, expectedHomeNodeID := 1
        reasonCode := .userDatabaseCorrupt, adminID := 1, now := 20 },
    .reconcileProtectionStates 21 1]).map .store ++
  [.claim ⟨80, 81, 9, 22⟩ 60, .confirm 1 80 81, .completeFreeze ⟨80, 81, 9, 23⟩]

theorem recovery_waits_for_freeze_takeover :
    ∃ s s', run faultStep ⟨sampleDb, ∅, []⟩ sampleFault = some s ∧
      faultStep s (.store (.confirmReplicaTakeover (sampleTakeover 60 2 15 30))) = some s' ∧
      s'.db.faults.get? 80 = (s.db.faults.get? 80).map fun fault =>
        if fault.state ≠ .resolved then { fault with state := .resolved, released := false }
        else fault := by
  obtain ⟨s, hrun, s', hstep, hmoved⟩ :
      ∃ s ∈ run faultStep ⟨sampleDb, ∅, []⟩ sampleFault,
        ∃ s' ∈ faultStep s (.store (.confirmReplicaTakeover (sampleTakeover 60 2 15 30))),
          s'.db.user.homeNodeID ≠ s.db.user.homeNodeID := by decide +kernel
  obtain rfl | ⟨-, hfaults⟩ := recovery_waits_for_freeze rfl hrun rfl hstep
  · exact absurd rfl hmoved
  · exact ⟨s, s', hrun, hstep, hfaults 80⟩

end StControl.Store
