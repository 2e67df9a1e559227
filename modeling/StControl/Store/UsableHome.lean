import StControl.Store.BackupAgain

/-!
# The home after it has moved

Four transactions move a user's home: a confirmed takeover, a completed restore, the migration of a
retirement and a completed conflict resolution.  A login on the new home needs an active user, an
active account on the node and a ready replica row of kind `home`; the ticket that the handoff
leaves is redeemed only while the user and the account are still active.

A takeover, a restore and a migration ask for the active account before they move the home.  The
completion of a conflict resolution rewrites accounts that are in conflict and no others: when the
account of the base has another status, as that of an old home has after a takeover, the user is
active again on a home where no ticket can be redeemed.  `home_usable_after_change` says that this
is the only case, and `stale_account_after_resolution` is a run that reaches it.
-/

namespace StControl.Store

open Transaction Run Option Table ControlTicket

variable {db db' : Db} {act : Act} {home : NodeID} {now : Time}
variable {source target : NodeID}

/-! ## A login that goes through -/

/-- The request asks for a new session of the user on the node, under identities that were not used
before and at a time at which no earlier session blocks a new writer. -/
structure CreateLoginHandoffParams.Fits (p : CreateLoginHandoffParams) (db : Db) (node : NodeID) :
    Prop where
  valid : 0 < p.requestedNodeID ∧ p.issuer ≠ "" ∧ p.keyID ≠ "" ∧ 0 < p.ticketTTL ∧ 0 < p.leaseTTL
  requests : p.requestedNodeID = node
  subject : db.user.uuid = p.subject
  newWriter : p.existingWriterOnly = false
  freshOperation : db.leaseOperations.get? p.operationID = none
  freshTicket : db.tickets.get? p.jti = none
  unticketed : db.tickets.all (fun _ t => t.operationID ≠ p.operationID)
  free : ∀ l, db.lease = some l → leaseBlocksNewWriter l p.now = false

structure ConsumeLoginHandoffParams.Redeems (q : ConsumeLoginHandoffParams)
    (p : CreateLoginHandoffParams) : Prop where
  jti : q.jti = p.jti
  secretHash : p.secretHash = q.secretHash
  node : p.requestedNodeID = q.nodeID
  issuer : p.issuer = q.expectedIssuer
  key : p.keyID = q.expectedKeyID
  issued : p.now ≤ q.now
  inTime : q.now < p.now + p.ticketTTL
  leased : q.now < p.now + p.leaseTTL
  renews : 0 < q.leaseTTL

def LoginPossible (db : Db) (node : NodeID) : Prop :=
  ∀ p q, p.Fits db node → q.Redeems p → Commits (createLoginHandoff p db) fun r =>
    r.1.targetNodeID = node ∧ Commits (consumeLoginHandoff q r.2) fun _ => True

structure UsableHome (db : Db) (home : NodeID) : Prop where
  active : db.user.isActive
  account : db.accountActive home
  replica : ∃ r, db.replicas.get? home = some r ∧ r.kind = .home ∧ r.state = .ready
  login : ∀ generation n, db.activeGeneration = some generation → db.nodes.get? home = some n →
    n.acceptsLogin generation false → LoginPossible db home

lemma decideLease_of_free {q : AcquireActivityLeaseParams} {o : Option ActivityLease}
    (hfree : ∀ l, o = some l → leaseBlocksNewWriter l q.now = false)
    (hnew : q.existingWriterOnly = false) :
    decideLease q o = .ok (freshLease q q.writerNodeID (nextEpoch o), .acquired) := by
  cases o with
  | none => simp [decideLease, hnew, nextEpoch]
  | some l => simp [decideLease, hfree l rfl, hnew, nextEpoch]

def CreateLoginHandoffParams.granted (p : CreateLoginHandoffParams) (generation : ℤ) (n : Node)
    (db : Db) : Db :=
  let lease := freshLease (p.leaseParams generation) p.requestedNodeID (nextEpoch db.lease)
  { db with
    lease := some lease
    leaseOperations := db.leaseOperations.put p.operationID
      (leaseOperation (p.leaseParams generation) .acquired lease)
    tickets := db.tickets.put p.jti (p.ticket generation lease n) }

section

variable {p : CreateLoginHandoffParams} {q : ConsumeLoginHandoffParams} {generation : ℤ} {n : Node}

lemma acquireActivityLeaseLocked_of_fits (hp : p.Fits db home) :
    acquireActivityLeaseLocked (p.leaseParams generation) db = .ok (.decided
      { lease := freshLease (p.leaseParams generation) p.requestedNodeID (nextEpoch db.lease)
        acquired := true, existing := false }
      { p.granted generation n db with tickets := db.tickets }) := by
  have hdecided := decideLease_of_free (q := p.leaseParams generation) hp.free hp.newWriter
  have hfresh : db.leaseOperations.get? (p.leaseParams generation).operationID = none :=
    hp.freshOperation
  unfold acquireActivityLeaseLocked
  rw [hfresh]
  exact bind_eq_ok.mpr ⟨_, hdecided, rfl⟩

lemma createLoginHandoff_of_fits (hp : p.Fits db home)
    (hcurrent : db.activeGeneration = some generation) (hnode : db.nodes.get? home = some n)
    (haccepts : n.acceptsLogin generation false) : Commits (createLoginHandoff p db) fun r =>
      r.1.targetNodeID = home ∧ r.2 = p.granted generation n db := by
  unfold createLoginHandoff
  rw [commits_require_bind, commits_need_bind]
  refine ⟨hp.valid, generation, hcurrent, ?_⟩
  refine commits_bind.mpr ⟨_, acquireActivityLeaseLocked_of_fits (n := n) hp, ?_⟩
  simp only [commits_require_bind, commits_need_bind, commits_pure]
  refine ⟨rfl, n, ?_, haccepts, ⟨hp.freshTicket, hp.unticketed⟩, hp.requests, rfl⟩
  rw [← hnode, ← hp.requests]
  rfl

open CreateLoginHandoffParams

section

variable (hactive : db.user.globalStatus = .active) (haccount : db.accountActive home)
  (hcurrent : db.activeGeneration = some generation) (hnode : db.nodes.get? home = some n)
include hactive haccount hcurrent hnode

lemma consumeLoginHandoff_of_granted (hp : p.Fits db home) (hq : q.Redeems p) :
    Commits (consumeLoginHandoff q (p.granted generation n db)) fun _ => True := by
  obtain ⟨account, haccountRow, hstatus⟩ := (any_eq_true _ _).mp haccount
  obtain ⟨hpositive, hissuer, hkey, -, -⟩ := hp.valid
  obtain rfl := hp.requests
  have hredeems : (p.ticket generation
      (freshLease (p.leaseParams generation) p.requestedNodeID (nextEpoch db.lease)) n).redeemedBy
        q := by
    simp [redeemedBy, redeemable, ticket, freshLease, hq.node, hq.secretHash, hq.issued, hq.issuer,
      hq.key, hq.inTime]
  unfold consumeLoginHandoff
  simp only [commits_require_bind, commits_need_bind, commits_pure]
  refine ⟨⟨hq.node ▸ hpositive, hq.issuer ▸ hissuer, hq.key ▸ hkey, hq.renews⟩,
    p.ticket generation (freshLease (p.leaseParams generation) p.requestedNodeID
      (nextEpoch db.lease)) n, ?_, hredeems, hcurrent, n, hnode, rfl, ⟨hp.subject, hactive⟩,
    account, haccountRow, of_decide_eq_true hstatus, _, rfl, ?_, trivial⟩
  · rw [hq.jti]
    exact get?_put_self ..
  · exact ⟨by simp [ActivityLease.matchesFence, fence, ticket, freshLease, leaseParams], rfl,
      hq.leased⟩

lemma loginPossible (haccepts : n.acceptsLogin generation false) : LoginPossible db home := by
  intro p q hp hq
  refine (createLoginHandoff_of_fits hp hcurrent hnode haccepts).mono ?_
  rintro ⟨handoff, db₁⟩ ⟨htarget, rfl⟩
  exact ⟨htarget, consumeLoginHandoff_of_granted hactive haccount hcurrent hnode hp hq⟩

end

end

/-! ## What a move of the home leaves -/

lemma User.globalStatus_of_isActive {u : User} (h : u.isActive) : u.globalStatus = .active := by
  simp only [User.isActive, Bool.and_eq_true,
    decide_eq_true_eq] at h
  exact h.1

lemma UsableHome.of_rows (hactive : db.user.isActive) (haccount : db.accountActive home)
    (hreplica : ∃ r, db.replicas.get? home = some r ∧ r.kind = .home ∧ r.state = .ready) :
    UsableHome db home where
  active := hactive
  account := haccount
  replica := hreplica
  login _ _ := loginPossible (User.globalStatus_of_isActive hactive) haccount

/-- The account of the base is active, or in conflict as the completion expects it; the other
moves of the home look at the account themselves. -/
def homeAccountReady (db : Db) (act : Act) : Bool :=
  match act with
  | .completeConflictResolution p => (db.resolutions.get? p.operationID).any fun operation =>
      (db.accounts.get? operation.baseNodeID).any fun a =>
        a.status = .active || a.status = .conflict
  | _ => true

lemma accountActive_switch (haccounts : db'.accounts = switchAccounts db.accounts source target)
    (hactive : db.accountActive target) : db'.accountActive target := by
  obtain ⟨a, ha, -⟩ := (any_eq_true _ _).mp hactive
  by_cases hne : target = source
  · simp [Db.accountActive, haccounts, switchAccounts, ← hne, ha]
  · simp [Db.accountActive, haccounts, switchAccounts, get?_modify_of_ne hne, ha]

lemma homeReady_modify {replicas : Table NodeID UserReplica} {f g : UserReplica → UserReplica}
    (hrow : (replicas.get? target).isSome) (hg : ∀ r, (g r).kind = .home ∧ (g r).state = .ready) :
    ∃ r, ((replicas.modify source f).modify target g).get? target = some r ∧ r.kind = .home ∧
      r.state = .ready := by
  have hmiddle : ((replicas.modify source f).get? target).isSome := by
    by_cases hne : target = source
    · simpa [← hne] using hrow
    · simpa [get?_modify_of_ne hne] using hrow
  obtain ⟨r, hr⟩ := isSome_iff_exists.mp hmiddle
  exact ⟨g r, by simp [hr], hg r⟩

lemma accountActive_resolved {accounts : Table NodeID NodeAccount} {base : NodeID} :
    ((resolvedAccounts accounts base).get? base).any (fun a => a.status = .active) =
      (accounts.get? base).any fun a => a.status = .active || a.status = .conflict := by
  cases ha : accounts.get? base with
  | none => simp [resolvedAccounts, ha]
  | some a => cases hs : a.status <;> simp [resolvedAccounts, ha, hs]

lemma usableHome_resolveConflict_iff {p : CompleteConflictResolutionParams} {w : Workflow}
    {operation : ResolutionOperation} (hcommit : ResolutionCommit p db w operation)
    (hhome : (resolveConflict p w operation db).user.homeNodeID = some home) :
    UsableHome (resolveConflict p w operation db) home ↔
      homeAccountReady db (.completeConflictResolution p) := by
  obtain rfl : operation.baseNodeID = home := some.inj hhome
  have haccount : (resolveConflict p w operation db).accountActive operation.baseNodeID =
      homeAccountReady db (.completeConflictResolution p) := by
    simp only [homeAccountReady, hcommit.hasOperation, any_some]
    exact accountActive_resolved
  rw [← haccount]
  refine ⟨UsableHome.account, fun h => .of_rows rfl h ⟨_, get?_upsert_self _ _ _ _, ?_⟩⟩
  cases (db.replicas.mapRows fun _ r => { r with state := .stale }).get? operation.baseNodeID <;>
    exact ⟨rfl, rfl⟩

/-- **The home is usable after it has moved.**  Once a takeover, restore, retirement migration or
conflict resolution has moved the home, the user is active, has an active account and a ready home
row there and can log in, exactly when the account was ready for the move. -/
theorem home_usable_after_change (hact : act.promotionTime = some now)
    (hstep : step db act = some db') (hmoved : db' ≠ db) (hhome : db'.user.homeNodeID = some home) :
    UsableHome db' home ↔ homeAccountReady db act = true := by
  have hok := step_eq_some.mp hstep
  cases act with
  | confirmReplicaTakeover p =>
    obtain heq | ⟨source, point, generation, hp, rfl⟩ := confirmReplicaTakeover_commit db' hok
    · exact absurd heq hmoved
    · obtain rfl : p.targetNodeID = home := some.inj hhome
      obtain ⟨r, hr, -, -⟩ := hp.standby
      exact iff_of_true (.of_rows hp.isActive (accountActive_switch rfl hp.account)
        (homeReady_modify (by simp [hr]) fun _ => ⟨rfl, rfl⟩)) rfl
  | completeRestoreWorkflow p =>
    obtain ⟨heq, -⟩ | ⟨w, operationID, operation, before, hp, rfl⟩ :=
      completeRestoreWorkflow_commit db' hok
    · exact absurd heq hmoved
    · obtain rfl : operation.targetNodeID = home := some.inj hhome
      exact iff_of_true (.of_rows hp.active (accountActive_switch rfl hp.account)
        (homeReady_modify hp.targetReplica fun _ => ⟨rfl, rfl⟩)) rfl
  | completeNodeRetirementHomeMigration itemID workflowID time =>
    obtain ⟨heq, -⟩ | ⟨item, operation, w, target, hp, rfl⟩ :=
      completeNodeRetirementHomeMigration_commit db' hok
    · exact absurd heq hmoved
    obtain rfl : target = home := some.inj hhome
    have hready := hp.ready
    simp only [Db.migrationReady, Bool.and_eq_true] at hready
    exact iff_of_true (.of_rows hp.active (accountActive_switch rfl hready.1.2)
      (homeReady_modify hp.targetReplica fun _ => ⟨rfl, rfl⟩)) rfl
  | completeConflictResolution p =>
    obtain heq | ⟨w, operation, hcommit, rfl⟩ := completeConflictResolution_commit db' hok
    · exact absurd heq hmoved
    · exact usableHome_resolveConflict_iff hcommit hhome
  | _ => cases hact

theorem home_usable_after_takeover : ∃ db db', run step sampleDb sampleStandby = some db ∧
      step db (.confirmReplicaTakeover (sampleTakeover 60 2 15 700)) = some db' ∧
      UsableHome db' 2 := by
  obtain ⟨db, hrun, db', hstep, hmoved, hafter⟩ : ∃ db ∈ run step sampleDb sampleStandby,
      ∃ db' ∈ step db (.confirmReplicaTakeover (sampleTakeover 60 2 15 700)),
        db' ≠ db ∧ db'.user.homeNodeID = some 2 := by
    decide +kernel
  exact ⟨db, db', hrun, hstep, (home_usable_after_change rfl hstep hmoved hafter).mpr rfl⟩

/-- Node `2` takes over from node `1`, which then reports that it was written while it was cut
off.  The user resolves the conflict in favour of node `1`. -/
def returnedToStaleHome : List Act :=
  sampleStandby ++ [ .confirmReplicaTakeover (sampleTakeover 60 2 15 20),
    .recordIndependentSyncFact 70 1 "user" 71 1 ] ++ sampleResolution 1 2 21

/-- **A home without a usable account.**  The takeover has made the account on node `1` stale, and
the completion in favour of node `1` leaves it so. -/
theorem stale_account_after_resolution :
    ¬ ∀ (start : Db) (first : NodeID) (acts : List Act) (db db' : Db) (act : Act) (home : NodeID)
      (now : Time), Registered start first → run step start acts = some db →
      act.promotionTime = some now → step db act = some db' → db' ≠ db →
      db'.user.homeNodeID = some home → UsableHome db' home := by
  intro hclaim
  obtain ⟨db, hrun, db', hstep, hmoved, hafter, haccount⟩ :
      ∃ db ∈ run step sampleDb returnedToStaleHome,
        ∃ db' ∈ step db (.completeConflictResolution (sampleResolved 23)),
          db' ≠ db ∧ db'.user.homeNodeID = some 1 ∧ db'.accountActive 1 = false := by
    decide +kernel
  have husable := hclaim sampleDb 1 _ db db' _ 1 23 sampleDb_registered hrun rfl hstep hmoved hafter
  cases haccount.symm.trans husable.account

end StControl.Store
