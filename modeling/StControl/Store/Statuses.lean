import StControl.Store.SettledConflicts

/-!
# Disabled and frozen users

The status of a user stands twice, in `users` and in `global_users`, and each account of the user
has a status of its own.  An administrator disables a user by writing the first of them; a conflict
freezes both.  There is no operation that enables a user again, and the way out of a freeze is a
completed conflict resolution.

Passwords reach the nodes asynchronously: a change of the password stages its material on the
accounts, a delivery sends it to a node, and `ActivateNodeAccount` records the answer whenever it
comes.  That statement sets both statuses of the user to active without reading them, and its
counterpart for a failed delivery overwrites the status of the account.  `statuses_kept` shows that
disabled and frozen users stay as they are in every run in which no delivery ends that way and no
freeze hits a disabled user, be it by an import, by an identity that a node refuses or by the sweep;
`disabled_user_reactivated` is the run of one delivery that comes back
after the user was disabled.  `RecoverIdentity`, which also stages a password, reads both statuses
and keeps a disabled user disabled.
-/

namespace StControl.Store

open Transaction Run Table Store
open Option hiding or_assoc

variable {db db' : Db} {nodeID : NodeID}
variable {account : NodeAccount} {home : NodeID} {handle : String}

/-! ## The transactions on identities -/

/-- `UpdateUserStatus`, as the administrator's request to disable a user calls it. -/
def disableUser (db : Db) : Db := { db with user := { db.user with legacyStatus := .disabled } }

/-- `stagePasswordMaterial`: the accounts that are not set aside wait for the new password. -/
def stagePasswordMaterial (db : Db) : Db :=
  { db with
    accounts := db.accounts.update
      (fun _ a => a.status = .active || a.status = .pending || a.status = .error)
      fun a => { a with
        status := .pending, hasPasswordMaterial := true, accountVersion := a.accountVersion + 1 } }

/-- The accounts after `UnbindUserIdentity` has taken the password away. -/
def removePasswordMaterial (db : Db) : Db :=
  { db with
    accounts := db.accounts.mapRows fun _ a => { a with
      hasPasswordMaterial := false, accountVersion := a.accountVersion + 1 } }

/-- `ActivateNodeAccount`: the node has taken the password. -/
def activateNodeAccount (nodeID : NodeID) (db : Db) : Except StoreError Db := do
  let account ← need (db.accounts.get? nodeID) .notFound
  require (account.status = .pending ∨ account.status = .error ∨ account.status = .active) .notFound
  return { db with
    accounts := db.accounts.put nodeID { account with status := .active }
    user := { db.user with legacyStatus := .active, globalStatus := .active } }

/-- `MarkNodeAccountError`: the delivery to the node has failed. -/
def markNodeAccountError (nodeID : NodeID) (db : Db) : Db :=
  { db with accounts := db.accounts.modify nodeID fun a => { a with status := .error } }

def UserStatus.recoverable (s : UserStatus) : Bool :=
  s = .active || s = .disabled || s = .recovering

def User.recoveredStatus (u : User) : UserStatus :=
  if u.globalStatus = .disabled ∨ u.legacyStatus = .disabled then .disabled else .active

/-- `RecoverIdentity`, for a request that was not answered before. -/
def recoverIdentity (db : Db) : Except StoreError Db := do
  require (db.user.globalStatus.recoverable ∧ db.user.legacyStatus.recoverable) .invalidInput
  require (db.activeGeneration.isSome) .noActiveGeneration
  return stagePasswordMaterial { db with
    user := { db.user with
      legacyStatus := db.user.recoveredStatus, globalStatus := db.user.recoveredStatus } }

/-- `FreezeOAuthIdentitySyncConflict`: a node has refused an identity of the user that was pending
for it.  Which ones are pending is left open; `0` is the identity of no node. -/
def freezeOAuthIdentitySyncConflict (now : Time) (db : Db) : Except StoreError Db := do
  require (db.user.globalStatus ≠ .deleted) .notFound
  require (db.resolutionInProgress = false) .importConflict
  return freezeImportedReplicas (db.user.homeNodeID.getD 0) now db

/-! ## Identities and deliveries -/

/-- The user's rows, whether the user has a password, and the nodes to which a `set_password`
command is on its way. -/
structure Identity where
  db : Db
  passwordBound : Bool
  deliveries : List NodeID

/-- What happens to an identity.  The deliveries of the durable worker, of a password change and of
a newly bound password differ only in when they start. -/
inductive IdentityAct
  | disableUser | updateUserPassword | bindPasswordIdentity
  | unbindPasswordIdentity (otherIdentities : Bool)
  | recoverIdentity
  | startDelivery (nodeID : NodeID)
  | finishDelivery (nodeID : NodeID) (delivered : Bool)
  | linkImportCandidate (nodeID : NodeID) (handle : String) (relink : Bool) (now : Time)
  | completeAccountImportClaim (nodeID : NodeID) (handle : String) (now : Time)
  | freezeOAuthIdentitySyncConflict (now : Time)
  | reconcileProtectionStates (now : Time) (conflictID : UUID)
  | completeConflictResolution (p : CompleteConflictResolutionParams)
  /-- A transaction that writes neither the user nor the accounts. -/
  | other (act : Act)

/-- `ListUserNodeAccounts` and the two lists of pending deliveries offer the account, and the node
is ready for a command. -/
def Db.deliverable (db : Db) (nodeID : NodeID) : Bool :=
  (db.accounts.get? nodeID).any
      (fun a => a.status = .active || a.status = .pending || a.status = .error) &&
    (db.nodes.get? nodeID).any fun n => n.serving && n.managed

def Db.delivered (db : Db) (nodeID : NodeID) : Bool → Db
  | true => ((activateNodeAccount nodeID db).toOption).getD db
  | false => markNodeAccountError nodeID db

def identityStep (s : Identity) : IdentityAct → Option Identity
  | .disableUser => some { s with db := disableUser s.db }
  | .updateUserPassword =>
    if s.passwordBound then some { s with db := stagePasswordMaterial s.db } else none
  | .bindPasswordIdentity =>
    if s.db.user.globalStatus = .active ∧ s.passwordBound = false then
      some { s with db := stagePasswordMaterial s.db, passwordBound := true }
    else none
  | .unbindPasswordIdentity otherIdentities =>
    if s.db.user.globalStatus = .active ∧ s.passwordBound ∧ otherIdentities then
      some { s with db := removePasswordMaterial s.db, passwordBound := false }
    else none
  | .recoverIdentity =>
    (recoverIdentity s.db).toOption.map fun db => { s with db, passwordBound := true }
  | .startDelivery nodeID =>
    if s.db.deliverable nodeID then some { s with deliveries := nodeID :: s.deliveries } else none
  | .finishDelivery nodeID delivered =>
    if nodeID ∈ s.deliveries then
      some { s with db := s.db.delivered nodeID delivered, deliveries := s.deliveries.erase nodeID }
    else none
  | .linkImportCandidate nodeID handle relink now =>
    (linkImportCandidate nodeID handle relink now s.db).toOption.map ({ s with db := · })
  | .completeAccountImportClaim nodeID handle now =>
    (completeAccountImportClaim nodeID handle now s.db).toOption.map ({ s with db := · })
  | .freezeOAuthIdentitySyncConflict now =>
    (freezeOAuthIdentitySyncConflict now s.db).toOption.map ({ s with db := · })
  | .reconcileProtectionStates now conflictID =>
    (reconcileProtectionStates now conflictID s.db).toOption.map ({ s with db := · })
  | .completeConflictResolution p =>
    (completeConflictResolution p s.db).toOption.map ({ s with db := · })
  | .other act =>
    ((step s.db act).filter fun db => db.user = s.db.user ∧ db.accounts = s.db.accounts).map
      ({ s with db := · })

def IdentityAct.completes : IdentityAct → Bool
  | .completeConflictResolution _ => true
  | _ => false

/-! ## Statuses that stay -/

structure DisabledKept (db db' : Db) : Prop where
  legacyStatus : db.user.legacyStatus = .disabled → db'.user.legacyStatus = .disabled
  globalStatus : db.user.globalStatus = .disabled → db'.user.globalStatus = .disabled

/-- A frozen user is still frozen or has been disabled, and accounts in conflict are still in
conflict. -/
structure FreezeKept (db db' : Db) : Prop where
  legacyStatus : db.user.legacyStatus = .conflict →
    db'.user.legacyStatus = .conflict ∨ db'.user.legacyStatus = .disabled
  globalStatus : db.user.globalStatus = .conflict → db'.user.globalStatus = .conflict
  accounts : ∀ n a, db.accounts.get? n = some a → a.status = .conflict →
    ∃ a', db'.accounts.get? n = some a' ∧ a'.status = .conflict

lemma DisabledKept.refl (db : Db) : DisabledKept db db := ⟨id, id⟩

lemma DisabledKept.trans {db'' : Db} (h : DisabledKept db db') (h' : DisabledKept db' db'') :
    DisabledKept db db'' :=
  ⟨fun hdisabled => h'.legacyStatus (h.legacyStatus hdisabled),
    fun hdisabled => h'.globalStatus (h.globalStatus hdisabled)⟩

lemma FreezeKept.refl (db : Db) : FreezeKept db db :=
  ⟨.inl, id, fun _ a ha hstatus => ⟨a, ha, hstatus⟩⟩

lemma FreezeKept.trans {db'' : Db} (h : FreezeKept db db') (h' : FreezeKept db' db'')
    (hdisabled : DisabledKept db' db'') : FreezeKept db db'' where
  legacyStatus hconflict := by
    rcases h.legacyStatus hconflict with hstays | hends
    · exact h'.legacyStatus hstays
    · exact .inr (hdisabled.legacyStatus hends)
  globalStatus hconflict := h'.globalStatus (h.globalStatus hconflict)
  accounts n a ha hstatus := by
    obtain ⟨b, hb, hbstatus⟩ := h.accounts n a ha hstatus
    exact h'.accounts n b hb hbstatus

lemma FreezeKept.of_update {p : NodeID → NodeAccount → Bool} {f : NodeAccount → NodeAccount}
    (hp : ∀ n a, a.status = .conflict → p n a = false ∨ (f a).status = .conflict) :
    ∀ n a, db.accounts.get? n = some a → a.status = .conflict →
      ∃ a', (db.accounts.update p f).get? n = some a' ∧ a'.status = .conflict := by
  intro n a ha hstatus
  refine ⟨if p n a then f a else a, by rw [get?_update, ha]; rfl, ?_⟩
  rcases hp n a hstatus with hskipped | hkept
  · rwa [hskipped]
  · split
    · exact hkept
    · exact hstatus

lemma FreezeKept.of_put (hfree : ∀ a, db.accounts.get? nodeID = some a → a.status = .conflict →
      account.status = .conflict) : ∀ n a, db.accounts.get? n = some a → a.status = .conflict →
      ∃ a', (db.accounts.put nodeID account).get? n = some a' ∧ a'.status = .conflict := by
  intro n a ha hstatus
  by_cases hn : n = nodeID
  · subst hn
    exact ⟨account, get?_put_self .., hfree a ha hstatus⟩
  · exact ⟨a, by rwa [get?_put_of_ne hn], hstatus⟩

/-! ## What each step leaves -/

abbrev Untouched (db db' : Db) : Prop := DisabledKept db db' ∧ FreezeKept db db'

lemma untouched_of_user (hlegacy : db'.user.legacyStatus = db.user.legacyStatus)
    (hglobal : db'.user.globalStatus = db.user.globalStatus)
    (haccounts : ∀ n a, db.accounts.get? n = some a → a.status = .conflict →
      ∃ a', db'.accounts.get? n = some a' ∧ a'.status = .conflict) : Untouched db db' :=
  ⟨⟨hlegacy.trans, hglobal.trans⟩, fun h => .inl (hlegacy.trans h), hglobal.trans, haccounts⟩

lemma untouched_disableUser : Untouched db (disableUser db) :=
  ⟨⟨fun _ => rfl, id⟩, fun _ => .inr rfl, id, (FreezeKept.refl db).accounts⟩

open FreezeKept

lemma untouched_stagePasswordMaterial : Untouched db (stagePasswordMaterial db) :=
  untouched_of_user rfl rfl (of_update fun _ a hstatus => .inl (by simp [hstatus]))

lemma untouched_removePasswordMaterial : Untouched db (removePasswordMaterial db) := by
  refine untouched_of_user rfl rfl fun n a ha hstatus => ⟨{ a with
    hasPasswordMaterial := false, accountVersion := a.accountVersion + 1 }, ?_, hstatus⟩
  exact (get?_mapRows _ _ _).trans (by rw [ha]; rfl)

lemma untouched_recoverIdentity : Ensures (recoverIdentity db) (Untouched db) := by
  simp only [recoverIdentity, ensures_steps]
  rintro ⟨hglobal, hlegacy⟩ -
  -- Neither status is `conflict`, and a status that is `disabled` decides the new one.
  have hunfrozen : db.user.legacyStatus ≠ .conflict ∧ db.user.globalStatus ≠ .conflict :=
    ⟨fun h => by simp [h, UserStatus.recoverable] at hlegacy,
      fun h => by simp [h, UserStatus.recoverable] at hglobal⟩
  refine ⟨⟨fun h => ?_, fun h => ?_⟩, fun h => absurd h hunfrozen.1, fun h => absurd h hunfrozen.2,
    untouched_stagePasswordMaterial.2.accounts⟩
  · exact if_pos (.inr h)
  · exact if_pos (.inl h)

def Db.activatable (db : Db) (nodeID : NodeID) : Bool :=
  (db.accounts.get? nodeID).any
    fun a => a.status = .pending || a.status = .error || a.status = .active

def User.unrestricted (u : User) : Bool :=
  u.legacyStatus ≠ .disabled && u.legacyStatus ≠ .conflict &&
    u.globalStatus ≠ .disabled && u.globalStatus ≠ .conflict

lemma untouched_activateNodeAccount (hfree : db.activatable nodeID → db.user.unrestricted) :
    Ensures (activateNodeAccount nodeID db) (Untouched db) := by
  simp only [activateNodeAccount, ensures_steps]
  intro account haccount hstatus
  have hactivatable : db.activatable nodeID := by
    simpa [Db.activatable, haccount, or_assoc] using hstatus
  have hunrestricted := hfree hactivatable
  simp only [User.unrestricted, ne_eq, decide_not, Bool.and_eq_true, Bool.not_eq_eq_eq_not,
    Bool.not_true, decide_eq_false_iff_not] at hunrestricted
  obtain ⟨⟨⟨hlegacy, hlegacy'⟩, hglobal⟩, hglobal'⟩ := hunrestricted
  refine ⟨⟨fun h => absurd h hlegacy, fun h => absurd h hglobal⟩, fun h => absurd h hlegacy',
    fun h => absurd h hglobal', of_put fun a ha hconflict => ?_⟩
  obtain rfl := mem_unique haccount ha
  simp [hconflict] at hstatus

lemma untouched_markNodeAccountError
    (hfree : ∀ a, db.accounts.get? nodeID = some a → a.status ≠ .conflict) :
    Untouched db (markNodeAccountError nodeID db) := by
  refine untouched_of_user rfl rfl fun n a ha hstatus => ⟨a, ?_, hstatus⟩
  have hn : n ≠ nodeID := by
    rintro rfl
    exact hfree a ha hstatus
  exact (get?_modify_of_ne hn).trans ha

variable {now : Time} {s' s : Identity}

lemma untouched_linkAccount (hfree : ∀ a, db.accounts.get? nodeID = some a → a.status = .conflict →
      account.status = .conflict) : Untouched db (linkAccount nodeID home account now db) :=
  untouched_of_user rfl rfl (of_put hfree)

lemma untouched_freezeImportedReplicas (hlegacy : db.user.legacyStatus ≠ .disabled)
    (hglobal : db.user.globalStatus ≠ .disabled) :
    Untouched db (freezeImportedReplicas home now db) := by
  refine ⟨⟨fun h => absurd h hlegacy, fun h => absurd h hglobal⟩, fun h => .inl ?_, fun h => ?_,
    of_update fun _ a hstatus => .inl (by simp [hstatus])⟩
  · simp [freezeImportedReplicas, h]
  · simp [freezeImportedReplicas, h]

lemma untouched_freezeOAuthIdentitySyncConflict (hfree : db.user.globalStatus ≠ .deleted →
      db.resolutionInProgress = false → db.user.legacyStatus ≠ .disabled ∧
        db.user.globalStatus ≠ .disabled) :
    Ensures (freezeOAuthIdentitySyncConflict now db) (Untouched db) := by
  simp only [freezeOAuthIdentitySyncConflict, ensures_steps]
  intro hstatus hidle
  exact untouched_freezeImportedReplicas (hfree hstatus hidle).1 (hfree hstatus hidle).2

lemma untouched_linkImportCandidate {relink : Bool}
    (hfree : db.otherData nodeID → db.user.legacyStatus ≠ .disabled) :
    Ensures (linkImportCandidate nodeID handle relink now db) (Untouched db) := by
  simp only [linkImportCandidate, ensures_steps, ensures_ite]
  intro hstatus _
  have hglobal : db.user.globalStatus ≠ .disabled := by
    rintro h
    simp [h] at hstatus
  generalize haccount : (db.accounts.get? nodeID).getD _ = account
  have hlinked : Untouched db (linkAccount nodeID (db.chosenHome nodeID) account now db) := by
    refine untouched_linkAccount fun a ha hconflict => ?_
    rwa [← haccount, ha]
  refine ⟨fun hother _ => ?_, fun _ => hlinked⟩
  have hfrozen : Untouched (linkAccount nodeID (db.chosenHome nodeID) account now db)
      (freezeImportedReplicas (db.chosenHome nodeID) now
        (linkAccount nodeID (db.chosenHome nodeID) account now db)) :=
    untouched_freezeImportedReplicas (hfree hother) hglobal
  exact ⟨hlinked.1.trans hfrozen.1, hlinked.2.trans hfrozen.2 hfrozen.1⟩

lemma untouched_completeAccountImportClaim :
    Ensures (completeAccountImportClaim nodeID handle now db) (Untouched db) := by
  refine completeAccountImportClaim_commit.mono ?_
  rintro _ ⟨account, hfresh, ⟨-, rfl⟩ | ⟨-, rfl⟩⟩
  · exact untouched_linkAccount fun a ha => by rw [hfresh] at ha; cases ha
  · exact untouched_of_user rfl rfl
      (of_put fun a ha => by rw [hfresh] at ha; cases ha)

def Db.sweepFreezes (db : Db) : Bool :=
  (if db.user.globalStatus = .deleted then db.protection else some db.projectProtection).any
    fun row => row.state = .conflict

lemma untouched_reconcileProtectionStates {conflictID : UUID}
    (hfree : db.sweepFreezes → db.user.legacyStatus ≠ .disabled ∧ db.user.globalStatus ≠
      .disabled) :
    Ensures (reconcileProtectionStates now conflictID db) (Untouched db) := by
  simp only [reconcileProtectionStates, ensures_require_bind]
  intro _
  split
  · exact ensures_pure.mpr ⟨.refl db, .refl db⟩
  next row hrow =>
    rw [ensures_ite, ensures_pure, ensures_pure]
    refine ⟨fun hconflict => ?_, fun _ => ?_⟩
    · obtain ⟨hlegacy, hglobal⟩ := hfree (by simp [Db.sweepFreezes, hrow, hconflict])
      exact ⟨⟨fun h => absurd h hlegacy, fun h => absurd h hglobal⟩, fun _ => .inl rfl,
        fun _ => rfl, (FreezeKept.refl db).accounts⟩
    · exact untouched_of_user rfl rfl (FreezeKept.refl db).accounts

lemma disabledKept_completeConflictResolution {p : CompleteConflictResolutionParams} :
    Ensures (completeConflictResolution p db) (DisabledKept db) := by
  refine completeConflictResolution_commit.mono ?_
  rintro _ (rfl | ⟨w, operation, hcommit, rfl⟩)
  · exact .refl _
  · exact ⟨fun h => by simp [hcommit.frozen.2] at h, fun h => by simp [hcommit.frozen.1] at h⟩

/-! ## Whole runs -/

/-- No delivery ends at a user who is disabled or frozen, a failed delivery does not hit an account
in conflict, and no freeze hits a disabled user. -/
def keepsStatuses (s : Identity) : IdentityAct → Bool
  | .finishDelivery nodeID true => !s.db.activatable nodeID || s.db.user.unrestricted
  | .finishDelivery nodeID false => (s.db.accounts.get? nodeID).all fun a => a.status ≠ .conflict
  | .linkImportCandidate nodeID _ _ _ =>
    !s.db.otherData nodeID || s.db.user.legacyStatus ≠ .disabled
  | .freezeOAuthIdentitySyncConflict _ =>
    s.db.user.globalStatus = .deleted || s.db.resolutionInProgress ||
      (s.db.user.legacyStatus ≠ .disabled && s.db.user.globalStatus ≠ .disabled)
  | .reconcileProtectionStates _ _ =>
    !s.db.sweepFreezes ||
      (s.db.user.legacyStatus ≠ .disabled && s.db.user.globalStatus ≠ .disabled)
  | _ => true

lemma Identity.of_toOption {tx : Except StoreError Db} {f : Db → Identity} {Q : Db → Prop}
    (hensures : Ensures tx Q) (h : tx.toOption.map f = some s') : ∃ db', f db' = s' ∧ Q db' := by
  obtain ⟨db', hdb', heq⟩ := map_eq_some_iff.mp h
  exact ⟨db', heq, hensures db' (toOption_eq_some.mp hdb')⟩

lemma untouched_delivered {delivered : Bool}
    (hkeeps : keepsStatuses s (.finishDelivery nodeID delivered)) :
    Untouched s.db (s.db.delivered nodeID delivered) := by
  cases delivered with
  | true =>
    have hfree : s.db.activatable nodeID → s.db.user.unrestricted := by
      intro hactivatable
      simpa [keepsStatuses, hactivatable] using hkeeps
    have hensures := untouched_activateNodeAccount hfree
    cases hresult : activateNodeAccount nodeID s.db with
    | error e =>
      rw [Db.delivered, hresult]
      exact ⟨.refl s.db, .refl s.db⟩
    | ok db' => simpa [Db.delivered, hresult, Except.toOption] using hensures db' hresult
  | false =>
    refine untouched_markNodeAccountError fun a ha => ?_
    simpa [keepsStatuses, ha] using hkeeps

variable {act : IdentityAct}

lemma untouched_identityStep (hends : act.completes = false) (hkeeps : keepsStatuses s act)
    (hstep : identityStep s act = some s') : Untouched s.db s'.db := by
  cases act with
  | disableUser =>
    cases hstep
    exact untouched_disableUser
  | updateUserPassword | bindPasswordIdentity =>
    obtain ⟨-, rfl⟩ := of_guarded hstep
    exact untouched_stagePasswordMaterial
  | unbindPasswordIdentity otherIdentities =>
    obtain ⟨-, rfl⟩ := of_guarded hstep
    exact untouched_removePasswordMaterial
  | recoverIdentity =>
    obtain ⟨db', rfl, h⟩ := Identity.of_toOption untouched_recoverIdentity hstep
    exact h
  | startDelivery nodeID =>
    obtain ⟨-, rfl⟩ := of_guarded hstep
    exact ⟨.refl s.db, .refl s.db⟩
  | finishDelivery nodeID delivered =>
    obtain ⟨-, rfl⟩ := of_guarded hstep
    exact untouched_delivered hkeeps
  | linkImportCandidate nodeID handle relink now =>
    have hfree : s.db.otherData nodeID → s.db.user.legacyStatus ≠ .disabled := by
      intro hother
      simpa [keepsStatuses, hother] using hkeeps
    obtain ⟨db', rfl, h⟩ := Identity.of_toOption (untouched_linkImportCandidate hfree) hstep
    exact h
  | completeAccountImportClaim nodeID handle now =>
    obtain ⟨db', rfl, h⟩ := Identity.of_toOption untouched_completeAccountImportClaim hstep
    exact h
  | freezeOAuthIdentitySyncConflict now =>
    have hfree : s.db.user.globalStatus ≠ .deleted → s.db.resolutionInProgress = false →
        s.db.user.legacyStatus ≠ .disabled ∧ s.db.user.globalStatus ≠ .disabled := by
      intro hstatus hidle
      simpa [keepsStatuses, hstatus, hidle] using hkeeps
    obtain ⟨db', rfl, h⟩ :=
      Identity.of_toOption (untouched_freezeOAuthIdentitySyncConflict hfree) hstep
    exact h
  | reconcileProtectionStates now conflictID =>
    have hfree : s.db.sweepFreezes →
        s.db.user.legacyStatus ≠ .disabled ∧ s.db.user.globalStatus ≠ .disabled := by
      intro hfreezes
      simpa [keepsStatuses, hfreezes] using hkeeps
    obtain ⟨db', rfl, h⟩ := Identity.of_toOption (untouched_reconcileProtectionStates hfree) hstep
    exact h
  | completeConflictResolution p => cases hends
  | other act =>
    obtain ⟨db', hdb', rfl⟩ := map_eq_some_iff.mp hstep
    obtain ⟨-, hrows⟩ := filter_eq_some_iff.mp hdb'
    obtain ⟨huser, haccounts⟩ := of_decide_eq_true hrows
    exact untouched_of_user (by rw [huser]) (by rw [huser])
      fun n a ha hstatus => ⟨a, by rwa [haccounts], hstatus⟩

lemma disabledKept_identityStep (hkeeps : keepsStatuses s act)
    (hstep : identityStep s act = some s') : DisabledKept s.db s'.db := by
  cases hends : act.completes with
  | false => exact (untouched_identityStep hends hkeeps hstep).1
  | true =>
    cases act with
    | completeConflictResolution p =>
      obtain ⟨db', rfl, h⟩ := Identity.of_toOption disabledKept_completeConflictResolution hstep
      exact h
    | _ => cases hends

/-- **Disabled and frozen users stay so.**  In every run in which no delivery ends at a user who is
disabled or frozen or fails at an account in conflict, and no freeze hits a disabled user, a
disabled user is disabled at the end; and if the run completes no conflict resolution, a frozen user
is still frozen or was disabled, and accounts in conflict are still in conflict. -/
theorem statuses_kept {s s' : Identity} {acts : List IdentityAct}
    (hmeets : Meets identityStep (fun t act => keepsStatuses t act = true) s acts)
    (hrun : run identityStep s acts = some s') : DisabledKept s.db s'.db ∧
      ((∀ act ∈ acts, act.completes = false) → FreezeKept s.db s'.db) := by
  have hdisabled : DisabledKept s.db s'.db :=
    run_invariant_of_meets (P := fun t => DisabledKept s.db t.db)
      (fun t act u ht hact hstep => ht.trans (disabledKept_identityStep hact hstep))
      (.refl s.db) hmeets hrun
  refine ⟨hdisabled, fun hends => ?_⟩
  have hboth : Meets identityStep
      (fun t act => act.completes = false ∧ keepsStatuses t act) s acts :=
    meets_iff.mpr fun acts₁ act acts₂ t hsplit ht =>
      ⟨hends act (by simp [hsplit]), meets_iff.mp hmeets acts₁ act acts₂ t hsplit ht⟩
  refine run_invariant_of_meets (P := fun t => FreezeKept s.db t.db) ?_ (.refl s.db) hboth hrun
  rintro t act u ht ⟨hact, hkeeps⟩ hstep
  obtain ⟨hdisabledKept, hfreezeKept⟩ := untouched_identityStep hact hkeeps hstep
  exact ht.trans hfreezeKept hdisabledKept

/-- A password is changed and reaches the home, and then the user is disabled and the identity
recovered. -/
def recoveredWhileDisabled : List IdentityAct :=
  [.updateUserPassword, .startDelivery 1, .finishDelivery 1 true, .disableUser, .recoverIdentity]

theorem statuses_kept_by_recovery :
    ∃ s s', run identityStep ⟨sampleDb, true, []⟩ (recoveredWhileDisabled.take 4) = some s ∧
      s.db.user.legacyStatus = .disabled ∧
      run identityStep s (recoveredWhileDisabled.drop 4) = some s' ∧
      s'.db.user.legacyStatus = .disabled := by
  obtain ⟨s, hs, s', hs', hdisabled, hmeets⟩ :
      ∃ s ∈ run identityStep ⟨sampleDb, true, []⟩ (recoveredWhileDisabled.take 4),
        ∃ s' ∈ run identityStep s (recoveredWhileDisabled.drop 4),
          s.db.user.legacyStatus = .disabled ∧ Meets identityStep
            (fun t act => keepsStatuses t act) s (recoveredWhileDisabled.drop 4) := by
    decide +kernel
  have hkept := statuses_kept hmeets hs'
  exact ⟨s, s', hs, hdisabled, hs', hkept.1.legacyStatus hdisabled⟩

/-- A password change is delivered to the home; while the command is on its way the administrator
disables the user. -/
def disabledDuringDelivery : List IdentityAct :=
  [.updateUserPassword, .startDelivery 1, .disableUser]

/-- A delivery that was on its way when the administrator disabled the user makes the user active
again; and the same answer takes a user who was frozen meanwhile out of the freeze, with the
conflict still open. -/
theorem disabled_user_reactivated :
    (∃ s s', run identityStep ⟨sampleDb, true, []⟩ disabledDuringDelivery = some s ∧
      identityStep s (.finishDelivery 1 true) = some s' ∧
      s.db.user.legacyStatus = .disabled ∧ s'.db.user.isActive = true) ∧
    ∃ s s', run identityStep ⟨sampleDb, true, []⟩
        [.updateUserPassword, .startDelivery 1, .finishDelivery 1 false, .startDelivery 1,
          .linkImportCandidate 2 "user" false 10, .reconcileProtectionStates 11 1] = some s ∧
      identityStep s (.finishDelivery 1 true) = some s' ∧
      s.db.user.globalStatus = .conflict ∧ s'.db.user.isActive = true ∧
      s'.db.openConflict = true := by
  constructor <;> exact exists_states (by decide +kernel)

end StControl.Store
