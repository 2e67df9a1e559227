import StControl.Store.SingleWriter

/-!
# One home

Three tables say where a user's data are at home: the user row names the home node, exactly one
replica row should be of kind `home` and on that node, and no copy elsewhere should be marked
authoritative.  Every transaction that moves the home rewrites all three, and the ones that only
announce or delete replicas have to leave the row of the home alone.

Two of them do not.  The completion of a conflict resolution makes the row of its base a `home` row
and leaves the kind of all others as it is, so a resolution whose base is not the home leaves two
of them: `two_homes_after_resolution`.  The creation of a snapshot workflow rewrites the kind of a
target row that is not ready, also when the target is the home.  `one_home` proves that nothing
else breaks the agreement.
-/

namespace StControl.Store

open Run Option Table

variable {db db' db₀ : Db} {act : Act} {home n : NodeID}
variable {nodeID : NodeID} {account : NodeAccount}

/-! ## The replica rows -/

/-- Exactly one row is of kind `home`, the one of the node `home`. -/
structure HomeRow (t : Table NodeID UserReplica) (home : NodeID) : Prop where
  there : ∃ r, t.get? home = some r ∧ r.kind = .home
  only : ∀ n r, t.get? n = some r → r.kind = .home → n = home

section

variable {t t' : Table NodeID UserReplica}

namespace HomeRow

lemma of_kinds (h : HomeRow t home) (hkinds : KindsKept t t') : HomeRow t' home := by
  obtain ⟨r, hr, hkind⟩ := h.there
  obtain ⟨r', hr', hsame⟩ := hkinds.after hr
  refine ⟨⟨r', hr', hsame.trans hkind⟩, fun n s' hs' hhome => ?_⟩
  obtain ⟨s, hs, hsame⟩ := hkinds.before hs'
  exact h.only n s hs (hsame.symm.trans hhome)

lemma upsert (h : HomeRow t home) {new : UserReplica} {merge : UserReplica → UserReplica}
    (hnew : new.kind = .home → n = home) (hmerge : ∀ r, t.get? n = some r →
      (merge r).kind = r.kind ∨ ((merge r).kind = .home ↔ n = home)) :
    HomeRow (t.upsert n new merge) home := by
  have hrow : ∀ r, t.get? n = some r → ((merge r).kind = .home ↔ n = home) := by
    intro r hr
    rcases hmerge r hr with hsame | hfits
    · rw [hsame]
      refine ⟨h.only n r hr, ?_⟩
      rintro rfl
      obtain ⟨s, hs, hkind⟩ := h.there
      rw [mem_unique hr hs, hkind]
    · exact hfits
  constructor
  · rw [get?_upsert]
    split
    next heq =>
      subst heq
      obtain ⟨r, hr, -⟩ := h.there
      rw [hr, map_some, getD_some]
      exact ⟨_, rfl, (hrow r hr).mpr rfl⟩
    · exact h.there
  · intro m s hs hkind
    rw [get?_upsert] at hs
    split at hs
    next heq =>
      rw [heq]
      cases hs
      cases hr : t.get? n with
      | none =>
        rw [hr] at hkind
        exact hnew hkind
      | some r =>
        rw [hr] at hkind
        exact (hrow r hr).mp hkind
    · exact h.only m s hs hkind

section

variable {source target : NodeID} (h : HomeRow t source) (htarget : (t.get? target).isSome)
include h htarget

lemma move {f g : UserReplica → UserReplica} (hf : ∀ r, (f r).kind ≠ .home)
    (hg : ∀ r, (g r).kind = .home) : HomeRow ((t.modify source f).modify target g) target := by
  constructor
  · obtain ⟨r, hr⟩ := isSome_iff_exists.mp htarget
    rw [get?_modify_self, get?_modify]
    split
    next heq => exact ⟨g (f r), by rw [← heq, hr]; rfl, hg _⟩
    · exact ⟨g r, by rw [hr]; rfl, hg _⟩
  · intro m s hs hkind
    by_contra hm
    rw [get?_modify_of_ne hm, get?_modify] at hs
    split at hs
    · obtain ⟨r, -, rfl⟩ := map_eq_some_iff.mp hs
      exact hf r hkind
    next hsource => exact hsource (h.only m s hs hkind)

lemma moveHomeReplica : HomeRow (moveHomeReplica t source target) target := by
  exact h.move htarget (fun _ hkind => by cases hkind) fun _ => rfl

lemma restoredReplicas {now : Time} : HomeRow (restoredReplicas t source target now) target := by
  exact h.move htarget (fun _ hkind => by cases hkind) fun _ => rfl

end

lemma delete (h : HomeRow t home) {p : NodeID → UserReplica → Bool}
    (hp : ∀ r, p home r = false) : HomeRow (t.delete p) home := by
  obtain ⟨r, hr, hkind⟩ := h.there
  constructor
  · rw [get?_delete, hr, filter_some, hp]
    exact ⟨r, rfl, hkind⟩
  · exact forall_delete h.only

lemma materialize (h : HomeRow t home) (accounts : Table NodeID NodeAccount) (now : Time) :
    HomeRow (materializeReplicas accounts home now t) home := by
  refine fold_invariant (P := fun t => HomeRow t home) h fun t node _ ht => ?_
  refine ht.upsert (fun hkind => ?_) fun r _ => .inl rfl
  by_contra hne
  simp [if_neg hne] at hkind

end HomeRow

end

/-! ## The copies -/

/-- Only the copy of the node `home` may be marked authoritative. -/
def AuthorityOn (t : Table NodeID ReplicaCopy) (home : NodeID) : Prop :=
  ∀ n c, t.get? n = some c → c.isAuthoritative → n = home

section

variable {t t' : Table NodeID ReplicaCopy}

lemma AuthorityOn.after (h : AuthorityOn t home)
    (hnew : NoNew (fun n c => c.isAuthoritative ∧ n ≠ home) t t') : AuthorityOn t' home := by
  intro n c' hc' hauthority
  by_contra hn
  obtain ⟨c, hc, hbefore, -⟩ := hnew n c' hc' ⟨hauthority, hn⟩
  exact hn (h n c hc hbefore)

lemma authorityOn_mapRows {f : NodeID → ReplicaCopy → ReplicaCopy}
    (hf : ∀ n c, (f n c).isAuthoritative = false) (home : NodeID) :
    AuthorityOn (t.mapRows f) home := by
  intro n c hc hauthority
  rw [get?_mapRows] at hc
  obtain ⟨c₀, -, rfl⟩ := map_eq_some_iff.mp hc
  simp [hf] at hauthority

lemma authorityOn_clearAuthority (t : Table NodeID ReplicaCopy) (home : NodeID) :
    AuthorityOn (clearAuthority t) home := by
  refine authorityOn_mapRows (fun n c => ?_) home
  split
  · rfl
  next hnot => simpa using hnot

end

/-! ## The agreement -/

/-- The three tables agree on `home`, where the user also has an account. -/
structure Db.OneHome (db : Db) (home : NodeID) : Prop where
  isHome : db.user.homeNodeID = some home
  row : HomeRow db.replicas home
  authority : AuthorityOn db.copies home
  account : (db.accounts.get? home).isSome

def homeUndisputed (db : Db) : Act → Bool
  | .completeConflictResolution p =>
    (db.workflows.get? p.workflowID).any (fun w => w.state = .succeeded) ||
      (db.resolutions.get? p.operationID).all fun o => db.user.homeNodeID = some o.baseNodeID
  | .createSnapshotWorkflow p => db.user.homeNodeID ≠ some p.targetNodeID ||
      (db.replicas.get? p.targetNodeID).all fun r => r.state = .ready
  | _ => true

lemma Db.OneHome.of_frame (h : db.OneHome home) (hframe : DataFrame db db') : db'.OneHome home where
  isHome := hframe.home.trans h.isHome
  row := h.row.of_kinds hframe.replicas
  authority := by
    intro n c' hc' hauthority
    obtain ⟨c, hc, hbefore⟩ := hframe.copies n c' hc' hauthority
    exact h.authority n c hc hbefore
  account := hframe.accounts home h.account

variable {source target : NodeID} {accounts : Table NodeID NodeAccount} {generation : ℤ}
  {w : Workflow} {now : Time}

lemma accountsKept_switch {t : Table NodeID NodeAccount} :
    AccountsKept t (switchAccounts t source target) :=
  fun n hn => accountsKept_mapRows n (accountsKept_mapRows n hn)

lemma accountActive_isSome (h : db.accountActive n) : (db.accounts.get? n).isSome := by
  simp only [Db.accountActive, any_eq_true] at h
  obtain ⟨a, ha, -⟩ := h
  rw [ha]
  rfl

lemma Db.OneHome.ne_of_no_account (h : db.OneHome home) (hnone : db.accounts.get? n = none) :
    n ≠ home := by
  rintro rfl
  have haccount := h.account
  simp [hnone] at haccount

lemma accountsKept_prepare
    (h : prepareWorkflowTargetAccount db target = .ok accounts) :
    AccountsKept db.accounts accounts := by
  unfold prepareWorkflowTargetAccount at h
  split at h
  · obtain rfl := Except.ok.inj h
    exact fun _ => id
  · obtain ⟨-, h⟩ := Transaction.of_require h
    obtain ⟨-, h⟩ := Transaction.of_require h
    cases h
    exact accountsKept_put

lemma announceReplica_row {t : Table NodeID UserReplica} {kind : ReplicaKind} (h : HomeRow t home)
    (hkind : kind ≠ .home) (hready : home = target → ∀ r, t.get? target = some r →
      r.state = .ready) :
    HomeRow (announceReplica t target kind) home := by
  refine h.upsert (fun hhome => absurd hhome hkind) fun r hr => ?_
  by_cases hstate : r.state = .ready
  · rw [if_pos hstate]
    exact .inl rfl
  · rw [if_neg hstate]
    refine .inr ⟨fun hhome => absurd hhome hkind, fun heq => ?_⟩
    exact absurd (hready heq.symm r hr) hstate

section

variable (h : db.OneHome home)
include h

namespace Db.OneHome

lemma takeover {p : ConfirmReplicaTakeoverParams} {point : RecoveryPoint}
    (hp : TakeoverCommit p db source point generation) :
    (promoteStandby p source point generation db).OneHome p.targetNodeID := by
  obtain rfl := mem_unique h.isHome hp.isHome
  obtain ⟨r, hr, -⟩ := hp.standby
  exact
    { isHome := rfl, row := h.row.moveHomeReplica (by rw [hr]; rfl)
      authority :=
        ((authorityOn_clearAuthority _ _).after (.upsert (by simp) (by simp))).after
          (.modify fun _ h => absurd rfl h.2)
      account := accountsKept_switch _ (accountActive_isSome hp.account) }

lemma restored {p : CompleteRestoreWorkflowParams} {operationID : UUID}
    {operation : RestoreOperation} (hp : RestoreCommit p db w operationID operation source) :
    (promoteRestored p operationID operation source db).OneHome operation.targetNodeID := by
  obtain rfl := mem_unique h.isHome hp.isHome
  exact
    { isHome := rfl, row := h.row.restoredReplicas hp.targetReplica
      authority := ((authorityOn_clearAuthority _ _).after (.modify (by simp))).after
        (.upsert (absurd rfl ·.2) fun _ h => absurd rfl h.2)
      account := accountsKept_switch _ (accountActive_isSome hp.account) }

lemma migrated {itemID workflowID : UUID} {item : RetirementItem} {operation : NodeRetirement}
    (hp : MigrationCommit itemID workflowID now db item operation w target) :
    (migrateHome itemID operation.nodeID target now db).OneHome target := by
  have hsource := mem_unique h.isHome hp.isHome
  subst hsource
  have hready := hp.ready
  simp only [Db.migrationReady, Bool.and_eq_true] at hready
  exact
    { isHome := rfl, row := h.row.moveHomeReplica hp.targetReplica
      authority := ((authorityOn_clearAuthority _ _).after (.modify (by simp))).after
        (.modify fun _ h => absurd rfl h.2)
      account := accountsKept_switch _ (accountActive_isSome hready.1.2) }

lemma resolved {p : CompleteConflictResolutionParams} {operation : ResolutionOperation}
    (hbase : operation.baseNodeID = home) : (resolveConflict p w operation db).OneHome home where
  isHome := congrArg some hbase
  row := by
    have hstale : KindsKept db.replicas (db.replicas.mapRows fun _ r =>
      { r with state := .stale }) :=
      kindsKept_mapRows fun _ => rfl
    exact (h.row.of_kinds hstale).upsert (fun _ => hbase) fun _ _ => .inr
      ⟨fun _ => hbase, fun _ => rfl⟩
  authority := by
    dsimp only [resolveConflict, resolvedCopies]
    rw [hbase]
    exact (authorityOn_mapRows (fun _ _ => rfl) home).after
      (.upsert (absurd rfl ·.2) fun _ h => absurd rfl h.2)
  account := accountsKept_mapRows home h.account

lemma faultReported {p : ReportUserDataFaultParams} :
    (closeFaultyHome p home generation db).OneHome home :=
  { h with
    row := h.row.upsert (fun _ => rfl) fun _ _ => .inr ⟨fun _ => rfl, fun _ => rfl⟩
    authority := h.authority.after (.upsert (absurd rfl ·.2) fun _ h => absurd rfl h.2) }

lemma snapshotCreated {p : CreateSnapshotWorkflowParams}
    (hkind : p.destinationKind = .archive ∨ p.destinationKind = .hotStandby)
    (haccounts : AccountsKept db.accounts accounts)
    (hready : home = p.targetNodeID → ∀ r, db.replicas.get? p.targetNodeID = some r →
      r.state = .ready) : (insertSnapshotWorkflow p generation accounts db).OneHome home :=
  { h with
    row := by
      refine announceReplica_row h.row ?_ hready
      rcases hkind with hkind | hkind <;> rw [hkind] <;> exact nofun
    account := haccounts home h.account }

lemma restoreCreated {p : CreateRestoreWorkflowParams} {archive : RecoveryPoint}
    {manifest : SnapshotManifest}
    (hp : RestoreCreation p db source archive manifest generation accounts) :
    (insertRestoreWorkflow p archive manifest.activityEpoch generation accounts db).OneHome
      home := by
  have hsource := mem_unique h.isHome hp.isHome
  exact
    { isHome := h.isHome
      row := h.row.upsert nofun fun _ _ =>
        .inr ⟨nofun, fun heq => absurd (heq.trans hsource).symm hp.neHome⟩
      authority := h.authority, account := accountsKept_prepare hp.prepared home h.account }

lemma linked : (linkAccount nodeID home account now db).OneHome home where
  isHome := rfl
  row := by
    refine h.row.upsert (fun hkind => ?_) fun r _ => .inr ?_
    · by_contra hne
      simp [if_neg (Ne.symm hne)] at hkind
    · split
      next heq => exact ⟨fun _ => heq.symm, fun _ => rfl⟩
      next hne => exact ⟨nofun, fun heq => absurd heq.symm hne⟩
  authority := h.authority
  account := accountsKept_put home h.account

lemma frozen : (freezeImportedReplicas home now db).OneHome home where
  isHome := h.isHome
  row := (h.row.materialize db.accounts now).of_kinds (kindsKept_mapRows fun _ => rfl)
  authority := h.authority.after (.update fun _ _ _ h => nomatch h.1)
  account := accountsKept_mapRows home h.account

lemma claimed (hfresh : db.accounts.get? nodeID = none) :
    (claimAccount nodeID account now db).OneHome home :=
  { h with
    row := h.row.upsert nofun fun _ _ =>
      .inr ⟨nofun, fun heq => absurd heq (h.ne_of_no_account hfresh)⟩
    account := accountsKept_put home h.account }

lemma cleaned {taskID : UUID} {task : CleanupTask} (hne : db.user.homeNodeID ≠ some task.nodeID) :
    (deleteReplica taskID task db).OneHome home :=
  { h with
    row := by
      dsimp only [deleteReplica]
      refine h.row.delete fun r => ?_
      have hnode : home ≠ task.nodeID := fun heq => hne (heq ▸ h.isHome)
      simp [hnode]
    authority := h.authority.after .delete }

end Db.OneHome

/-- **One step.**  The three tables still agree, on the old home or on the new one. -/
theorem Committed.oneHome (hcond : homeUndisputed db act) (hcommitted : Committed db act db') :
    ∃ home', db'.OneHome home' := by
  cases hcommitted with
  | frame hframe | lifecycle _ hframe
  | session _ _ hframe _ => exact ⟨home, h.of_frame hframe.toDataFrame⟩
  | takeover hp => exact ⟨_, h.takeover hp⟩
  | restored hp => exact ⟨_, h.restored hp⟩
  | migrated hp => exact ⟨_, h.migrated hp⟩
  | @resolved p w operation hp =>
    refine ⟨home, h.resolved ?_⟩
    simpa [homeUndisputed, hp.workflow, hp.publishing, hp.hasOperation, h.isHome, eq_comm]
      using hcond
  | faultReported isHome =>
    obtain rfl := mem_unique h.isHome isHome
    exact ⟨home, h.faultReported⟩
  | @snapshotCreated p generation accounts hp =>
    refine ⟨home, h.snapshotCreated hp.destination ?_ fun heq r hr => ?_⟩
    · rcases hp.accounts with rfl | hprepared
      · exact fun _ => id
      · exact accountsKept_prepare hprepared
    · simpa [homeUndisputed, h.isHome, heq, hr] using hcond
  | @repairCreated p generation hp =>
    have hsource := mem_unique h.isHome hp.isHome
    have hjob : Db.OneHome { db with
        jobs := db.jobs.put p.jobID
          { srcNodeID := p.sourceNodeID, dstNodeID := p.targetNodeID, status := .pending
            workflowID := none } } home := { h with }
    exact ⟨home, hjob.snapshotCreated (.inl rfl) (fun _ => id)
      fun heq => absurd (hsource.symm.trans heq).symm hp.ne⟩
  | restoreCreated hp => exact ⟨home, h.restoreCreated hp⟩
  | resolutionCreated | restarted => exact ⟨home, { h with }⟩
  | imported =>
    rw [Db.chosenHome_eq h.isHome]
    exact ⟨home, h.linked⟩
  | importFrozen =>
    rw [Db.chosenHome_eq h.isHome]
    exact ⟨home, h.linked.frozen⟩
  | homeClaimed _ homeless =>
    simp [h.isHome] at homeless
  | claimed hfresh _ => exact ⟨home, h.claimed hfresh⟩
  | cleaned hne => exact ⟨home, h.cleaned hne⟩

end

lemma Registered.oneHome (h : Registered db home) : db.OneHome home where
  isHome := h.isHome
  row := by
    obtain ⟨r, hr, hkind, -⟩ := h.replica
    exact ⟨⟨r, hr, hkind⟩, fun n s hs _ => h.onlyReplica n s hs⟩
  authority := by
    intro n c hc
    simp [h.copies, get?_empty] at hc
  account := accountActive_isSome h.account

/-- **One home, one authority.**  In every run in which resolutions complete on the home and
snapshots to the home find its row ready, exactly one replica row is of kind `home`, it is on the
home, and no other copy is authoritative. -/
theorem one_home {acts : List Act} (hregistered : Registered db₀ home)
    (hmeets : Meets step (fun s a => homeUndisputed s a = true) db₀ acts)
    (hrun : run step db₀ acts = some db) : ∃ node, db.user.homeNodeID = some node ∧
      (∃ r, db.replicas.get? node = some r ∧ r.kind = .home) ∧
      (∀ n r, db.replicas.get? n = some r → r.kind = .home → n = node) ∧
      ∀ n c, db.copies.get? n = some c → c.isAuthoritative = true → n = node := by
  obtain ⟨node, h⟩ := run_invariant_of_meets (P := fun s => ∃ node, s.OneHome node)
    (fun s a s' ⟨node, hs⟩ hcond hstep => (step_committed hstep).oneHome hs hcond)
    ⟨home, hregistered.oneHome⟩ hmeets hrun
  exact ⟨node, h.isHome, h.row.there, h.row.only, h.authority⟩

def sampleTakeoverRun : List Act :=
  sampleTransfer 50 1 2 .hotStandby 10 ++
    [sampleCompletion 50 2 .hotStandby 15, .confirmReplicaTakeover (sampleTakeover 60 2 15 20)]

theorem one_home_after_takeover :
    ∃ db, run step sampleDb sampleTakeoverRun = some db ∧ db.user.homeNodeID = some 2 ∧
      ∀ n r, db.replicas.get? n = some r → r.kind = .home → n = 2 := by
  obtain ⟨db, hrun, hhome⟩ : ∃ db ∈ run step sampleDb sampleTakeoverRun,
      db.user.homeNodeID = some 2 := by
    decide +kernel
  have hmeets : Meets step (fun s a => homeUndisputed s a) sampleDb sampleTakeoverRun := by
    decide +kernel
  obtain ⟨node, hnode, -, honly, -⟩ := one_home sampleDb_registered hmeets hrun
  obtain rfl := mem_unique hhome hnode
  exact ⟨db, hrun, hhome, honly⟩

/-- The resolution of a conflict between the home on node `1` and an imported account on node `2`,
in favour of the latter. -/
def resolvedElsewhere : List Act :=
  .linkImportCandidate 2 "user" false 10 :: sampleResolution 2 1 11 ++
    [.completeConflictResolution (sampleResolved 20)]

/-- **Two homes.**  The completed resolution has made the row of node `2` a `home` row, and the row
of node `1` still is one. -/
theorem two_homes_after_resolution :
    ¬ ∀ (db₀ : Db) (home : NodeID) (acts : List Act) (db : Db), Registered db₀ home →
      run step db₀ acts = some db → ∃ node, db.user.homeNodeID = some node ∧
        (∃ r, db.replicas.get? node = some r ∧ r.kind = .home) ∧
        (∀ n r, db.replicas.get? n = some r → r.kind = .home → n = node) ∧
        ∀ n c, db.copies.get? n = some c → c.isAuthoritative = true → n = node := by
  intro hclaim
  obtain ⟨db, hrun, ⟨r₁, hr₁, hkind₁⟩, r₂, hr₂, hkind₂⟩ :
      ∃ db ∈ run step sampleDb resolvedElsewhere,
        (∃ r ∈ db.replicas.get? 1, r.kind = .home) ∧ ∃ r ∈ db.replicas.get? 2, r.kind = .home := by
    decide +kernel
  obtain ⟨node, -, -, honly, -⟩ := hclaim _ _ _ db sampleDb_registered hrun
  have hsame := (honly 1 r₁ hr₁ hkind₁).trans (honly 2 r₂ hr₂ hkind₂).symm
  exact absurd hsame (by decide)

end StControl.Store
