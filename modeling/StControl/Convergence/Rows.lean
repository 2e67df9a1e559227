import StControl.Store.Schema

/-!
# The identity rows of a user

A user signs in with a password or with an identity of an OAuth provider, and every node on which
the user has an account must know the same credentials.  The controller keeps the credentials
(`auth_identities`), what each node is to be told (the identity columns of `node_accounts`), and two
tables of intents: removals of a password, and changes of an OAuth identity.

`Rows` holds these rows for one user.  The transactions that write them are given as functions on
`Rows`: those of the identities themselves, those by which a transfer prepares an account on its
target, the changes of status that a new home, a conflict and its resolution bring, and the three
lists from which deliveries start.  Of a workflow only its target and whether it is live are kept;
what else a transfer, a takeover or a resolution checks is the subject of the modules on the store.
-/

namespace StControl.Convergence

open Store (NodeID UUID Time Duration AccountStatus UserStatus WorkflowType)

/-! ## Rows -/

abbrev PasswordHash := String

/-- `password_hash` and `password_salt` of an account: what a node is told about a password. -/
structure Material where
  (hash salt : String)
  deriving DecidableEq

inductive Provider
  | discord | linuxdo
  deriving DecidableEq

structure Subjects where
  (discord linuxdo : Option String)
  deriving DecidableEq

namespace Subjects

def get (s : Subjects) : Provider → Option String
  | .discord => s.discord
  | .linuxdo => s.linuxdo

def set (s : Subjects) (provider : Provider) (subject : Option String) : Subjects :=
  match provider with
  | .discord => { s with discord := subject }
  | .linuxdo => { s with linuxdo := subject }

def empty : Subjects := ⟨none, none⟩

@[simp] lemma get_set_self (s : Subjects) (p : Provider) (subject : Option String) :
    (s.set p subject).get p = subject := by
  cases p <;> rfl

@[simp] lemma get_set_of_ne {s : Subjects} {p q : Provider} {subject : Option String}
    (h : q ≠ p) : (s.set p subject).get q = s.get q := by
  cases p <;> cases q <;> first | rfl | exact absurd rfl h

@[simp] lemma get_empty (p : Provider) : empty.get p = none := by
  cases p <;> rfl

end Subjects

/-- The active password row of `auth_identities`. -/
structure PasswordIdentity where
  passwordHash : PasswordHash
  previousPasswordHash : Option PasswordHash
  passwordChangedAt : Option Time
  deriving DecidableEq

/-- A row of `node_accounts`.  Hash and salt are both present or both absent. -/
structure AccountRow where
  localHandle : String
  status : AccountStatus
  (accountVersion passwordMaterialVersion : ℕ)
  passwordMaterial : Option Material
  oauthSubjects : Subjects
  provisioningWorkflowID : Option UUID
  updatedAt : Time
  deriving DecidableEq

inductive IntentState
  | pending | completed
  deriving DecidableEq

/-- A row of `node_account_password_removals`. -/
structure PasswordRemoval where
  localHandle : String
  passwordMaterialVersion : ℕ
  state : IntentState
  updatedAt : Time
  deriving DecidableEq

/-- A row of `node_account_oauth_syncs`, for one node and provider. -/
structure OAuthIdentitySync where
  (subject localHandle : String)
  accountVersion : ℕ
  desiredPresent : Bool
  state : IntentState
  updatedAt : Time
  deriving DecidableEq

structure TransferWorkflow where
  workflowType : WorkflowType
  targetNodeID : NodeID
  live : Bool
  deriving DecidableEq

structure Rows where
  username : String
  (globalStatus legacyStatus : UserStatus)
  password : Option PasswordIdentity
  oauth : Subjects
  accounts : Table NodeID AccountRow
  removals : Table NodeID PasswordRemoval
  syncs : Provider → Table NodeID OAuthIdentitySync
  workflows : Table UUID TransferWorkflow

section

variable (r : Rows)

def Rows.liveWorkflow : Bool := r.workflows.any fun _ w => w.live

/-! ## Passwords -/

def AccountRow.staged (a : AccountRow) : Bool :=
  a.status = .active || a.status = .pending || a.status = .error

def AccountRow.stage (material : Material) (now : Time) (a : AccountRow) : AccountRow :=
  if a.staged then
    { a with
      status := .pending, passwordMaterial := some material
      passwordMaterialVersion := a.passwordMaterialVersion + 1
      accountVersion := a.accountVersion + 1, updatedAt := now }
  else a

/-- `stagePasswordMaterialCount`, which also calls off every pending removal. -/
def stagePasswordMaterial (material : Material) (now : Time) (r : Rows) : Rows :=
  { r with
    accounts := r.accounts.mapRows fun _ a => a.stage material now
    removals := r.removals.update (fun _ removal => removal.state = .pending)
      fun removal => { removal with state := .completed, updatedAt := now } }

def PasswordIdentity.changed (identity : PasswordIdentity) (hash : PasswordHash) (now : Time) :
    PasswordIdentity where
  passwordHash := hash
  previousPasswordHash := some identity.passwordHash
  passwordChangedAt := some now

section

variable (hash : PasswordHash)
include hash

def freshPassword : PasswordIdentity := ⟨hash, none, none⟩

def updateUserPassword (material : Material) (now : Time) (r : Rows) : Option Rows :=
  r.password.map fun identity =>
    stagePasswordMaterial material now { r with password := some (identity.changed hash now) }

def bindPasswordIdentity (material : Material) (now : Time) (r : Rows) : Option Rows :=
  if r.globalStatus = .active ∧ r.password = none then
    some (stagePasswordMaterial material now { r with password := some (freshPassword hash) })
  else none

def recoverable (status : UserStatus) : Bool :=
  status = .active || status = .disabled || status = .recovering

/-- `RecoverUserPasswordIdentity`, for a request that was not answered before. -/
def recoverUserPasswordIdentity (material : Material) (now : Time) (r : Rows) : Option Rows :=
  if recoverable r.globalStatus ∧ recoverable r.legacyStatus then
    let status : UserStatus :=
      if r.globalStatus = .disabled ∨ r.legacyStatus = .disabled then .disabled else .active
    some (stagePasswordMaterial material now { r with
      password := some ((r.password.map (·.changed hash now)).getD (freshPassword hash))
      globalStatus := status, legacyStatus := status })
  else none

end

def stagePasswordRemovals (now : Time) (r : Rows) : Rows :=
  { r with
    removals := r.removals.fill r.accounts fun _ a _ =>
      { localHandle := a.localHandle, passwordMaterialVersion := a.passwordMaterialVersion
        state := .pending, updatedAt := now } }

def AccountRow.dropPassword (now : Time) (a : AccountRow) : AccountRow :=
  { a with
    passwordMaterial := none, passwordMaterialVersion := a.passwordMaterialVersion + 1
    accountVersion := a.accountVersion + 1, updatedAt := now }

/-- `UnbindUserIdentity` for the password. -/
def unbindPassword (now : Time) (r : Rows) : Option Rows :=
  if r.globalStatus = .active ∧ r.password.isSome ∧ r.oauth ≠ .empty then
    some (stagePasswordRemovals now { r with
      password := none, accounts := r.accounts.mapRows fun _ a => a.dropPassword now })
  else none

def passwordFallbackWindow : Duration := 48 * 60 * 60

def AccountRow.unconverged (a : AccountRow) : Bool :=
  (a.status = .pending || a.status = .error) && a.provisioningWorkflowID.isNone

def Rows.incomplete : Bool := r.accounts.any fun _ a => a.unconverged

def passwordFallbackHash (now : Time) : Option PasswordHash := do
  let identity ← r.password
  let previous ← identity.previousPasswordHash
  let changedAt ← identity.passwordChangedAt
  if previous ≠ "" ∧ r.incomplete ∧ now - changedAt ≤ passwordFallbackWindow then some previous
  else none

def clearPasswordFallbackIfConverged : Rows :=
  if r.incomplete then r
  else { r with
    password := r.password.map fun identity =>
      { identity with previousPasswordHash := none, passwordChangedAt := none } }

/-! ## Deliveries of passwords -/

/-- `passwordRemovalBackoff` and its counterpart for new passwords. -/
def passwordSyncBackoff : Duration := 2 * 60

/-- `ListPendingPasswordSyncsForUser` lists the account. -/
def AccountRow.pendingPasswordSync (a : AccountRow) : Bool :=
  a.unconverged && a.passwordMaterial.isSome

/-- `ListPendingPasswordSyncs` lists the account, given whether its node is online. -/
def dueForPasswordSync (online : NodeID → Bool) (now : Time) (node : NodeID) : Bool :=
  (r.accounts.get? node).any fun a =>
    r.globalStatus = .active && online node && a.pendingPasswordSync &&
      a.updatedAt ≤ now - passwordSyncBackoff

/-- `ListPendingPasswordRemovals` lists the removal, apart from the state of the node and the age of
the row. -/
def pendingPasswordRemoval (node : NodeID) : Bool :=
  (r.removals.get? node).any fun removal => (r.accounts.get? node).any fun a =>
    removal.state = .pending && 0 < removal.passwordMaterialVersion &&
      a.localHandle = removal.localHandle &&
      a.passwordMaterialVersion = removal.passwordMaterialVersion && a.passwordMaterial.isNone

end

open AccountRow

/-- `ActivateNodeAccount`; where it is refused, the caller goes on. -/
def activateNodeAccount (node : NodeID) (now : Time) (r : Rows) : Rows :=
  if (r.accounts.get? node).any staged then
    { r with
      accounts := r.accounts.modify node fun a => { a with status := .active, updatedAt := now }
      globalStatus := .active, legacyStatus := .active }
  else r

def markNodeAccountError (node : NodeID) (now : Time) (r : Rows) : Rows :=
  { r with
    accounts := r.accounts.modify node fun a => { a with status := .error, updatedAt := now } }

/-- `ActivatePasswordRemoval`, and `MarkPasswordRemovalError` for a delivery that has failed. -/
def endPasswordRemoval (node : NodeID) (version : ℕ) (delivered : Bool) (now : Time) (r : Rows) :
    Rows :=
  { r with
    removals := r.removals.update
      (fun n removal => n = node && removal.passwordMaterialVersion = version &&
        removal.state = .pending)
      fun removal => { removal with
        state := if delivered then .completed else .pending
        updatedAt := now } }

/-! ## OAuth identities -/

section

variable (provider : Provider)

def stageOAuthIdentitySyncs (subject : String) (desiredPresent : Bool) (now : Time) (r : Rows) :
    Rows :=
  { r with
    syncs := fun p =>
      if p = provider then
        (r.syncs p).fill r.accounts fun _ a _ =>
          { subject, localHandle := a.localHandle, accountVersion := a.accountVersion
            desiredPresent, state := .pending
            updatedAt := now }
      else r.syncs p }

def AccountRow.setSubject (subject : Option String) (now : Time) (a : AccountRow) : AccountRow :=
  { a with
    oauthSubjects := a.oauthSubjects.set provider subject, accountVersion := a.accountVersion + 1
    updatedAt := now }

def bindOAuthIdentity (subject : String) (now : Time) (r : Rows) : Option Rows :=
  if r.globalStatus = .active ∧ r.oauth.get provider = none ∧ subject ≠ "" then
    some (stageOAuthIdentitySyncs provider subject true now { r with
      oauth := r.oauth.set provider (some subject)
      accounts := r.accounts.mapRows fun _ a => a.setSubject provider (some subject) now })
  else none

def Rows.hasOtherIdentity (r : Rows) (provider : Provider) : Bool :=
  r.password.isSome || r.oauth.set provider none ≠ .empty

/-- `UnbindUserIdentity` for an OAuth identity. -/
def unbindOAuthIdentity (now : Time) (r : Rows) : Option Rows :=
  match r.oauth.get provider with
  | none => none
  | some subject =>
    if r.globalStatus = .active ∧ r.hasOtherIdentity provider then
      some (stageOAuthIdentitySyncs provider subject false now { r with
        oauth := r.oauth.set provider none
        accounts := r.accounts.mapRows fun _ a => a.setSubject provider none now })
    else none

end

/-- The intent of an account for an identity of the user, after the first statement of
`ReconcileOAuthIdentitySyncIntents`. -/
def repairedSync (subject : String) (now : Time) (a : AccountRow) :
    Option OAuthIdentitySync → OAuthIdentitySync
  | some sync =>
    if sync.subject = subject ∧ sync.localHandle = a.localHandle ∧
        sync.accountVersion = a.accountVersion ∧ sync.desiredPresent then
      sync
    else
      { subject, localHandle := a.localHandle, accountVersion := a.accountVersion
        desiredPresent := true, state := .pending, updatedAt := now }
  | none =>
    { subject, localHandle := a.localHandle, accountVersion := a.accountVersion
      desiredPresent := true, state := .pending, updatedAt := now }

def advancedRemoval (now : Time) (sync : OAuthIdentitySync) : Option AccountRow → OAuthIdentitySync
  | some a =>
    if sync.desiredPresent = false ∧
        (sync.localHandle ≠ a.localHandle ∨ sync.accountVersion ≠ a.accountVersion) then
      { sync with
        localHandle := a.localHandle, accountVersion := a.accountVersion, state := .pending
        updatedAt := now }
    else sync
  | none => sync

def reconcileOAuthIdentitySyncIntents (now : Time) (r : Rows) : Rows :=
  { r with
    syncs := fun p =>
      match r.oauth.get p with
      | some subject => (r.syncs p).fill r.accounts fun _ a => repairedSync subject now a
      | none => (r.syncs p).mapRows fun node sync =>
        advancedRemoval now sync (r.accounts.get? node) }

/-- `ListPendingOAuthIdentitySyncs` lists the intent, apart from the state of the node and the age
of the row. -/
def pendingOAuthIdentitySync (r : Rows) (provider : Provider) (node : NodeID) : Bool :=
  ((r.syncs provider).get? node).any fun sync => (r.accounts.get? node).any fun a =>
    a.localHandle = sync.localHandle && a.accountVersion = sync.accountVersion &&
      a.status = .active && sync.state = .pending &&
      (if sync.desiredPresent then r.oauth.get provider = some sync.subject
        else r.oauth.get provider = none)

def OAuthIdentitySync.isFor (sync : OAuthIdentitySync) (handle subject : String) (version : ℕ)
    (present : Bool) : Bool :=
  sync.subject = subject && sync.localHandle = handle && sync.accountVersion = version &&
    sync.desiredPresent = present && sync.state = .pending

/-- `CompleteOAuthIdentitySync`, and `MarkOAuthIdentitySyncError` for a delivery that has failed. -/
def endOAuthIdentitySync (node : NodeID) (provider : Provider) (handle subject : String)
    (version : ℕ) (present delivered : Bool) (now : Time) (r : Rows) : Rows :=
  { r with
    syncs := fun p =>
      if p = provider then
        (r.syncs p).update (fun n sync => n = node && sync.isFor handle subject version present)
          fun sync => { sync with
            state := if delivered then .completed else .pending
            updatedAt := now }
      else r.syncs p }

def AccountRow.freezable (a : AccountRow) : Bool :=
  a.status = .pending || a.status = .active || a.status = .stale

def AccountRow.freeze (now : Time) (a : AccountRow) : AccountRow :=
  if a.freezable then { a with status := .conflict, updatedAt := now } else a

/-- The statements of `freezeImportedReplicaConflict` on these rows. -/
def freezeImportedReplicaConflict (now : Time) (r : Rows) : Rows :=
  { r with
    globalStatus := if r.globalStatus = .deleted then .deleted else .conflict
    legacyStatus := if r.legacyStatus = .deleted then .deleted else .conflict
    accounts := r.accounts.mapRows fun _ a => a.freeze now }

/-- `FreezeOAuthIdentitySyncConflict`: the intent counts as completed, and the user is frozen. 
Where the intent has changed, the delivery counts as failed. -/
def freezeOAuthIdentitySyncConflict (node : NodeID) (provider : Provider)
    (handle subject : String) (version : ℕ) (present : Bool) (now : Time) (r : Rows) : Rows :=
  if r.globalStatus ≠ .deleted ∧
      ((r.syncs provider).get? node).any (·.isFor handle subject version present) then
    freezeImportedReplicaConflict now
      (endOAuthIdentitySync node provider handle subject version present true now r)
  else endOAuthIdentitySync node provider handle subject version present false now r

/-! ## Accounts that transfers provision -/

/-- The better of two rows in `ORDER BY password_material_version DESC,updated_at DESC`, among those
with a password. -/
def betterMaterial (best : Option AccountRow) (a : AccountRow) : Option AccountRow :=
  if a.passwordMaterial.isSome ∧ best.all fun b =>
      b.passwordMaterialVersion < a.passwordMaterialVersion ||
        (b.passwordMaterialVersion = a.passwordMaterialVersion && b.updatedAt ≤ a.updatedAt) then
    some a
  else best

/-- The row whose password `prepareWorkflowTargetAccount` copies. -/
def Rows.newestMaterial (r : Rows) : Option AccountRow :=
  r.accounts.fold none fun best _ a => betterMaterial best a

def Subjects.provisioned (s : Subjects) : Subjects :=
  match s.discord with
  | some subject => ⟨some subject, none⟩
  | none => ⟨none, s.linuxdo⟩

section

variable (workflowID : UUID)

/-- The account that `prepareWorkflowTargetAccount` writes. -/
def preparedAccount (now : Time) (r : Rows) (old : Option AccountRow) : AccountRow where
  localHandle := r.username
  status := .pending
  accountVersion := (old.map (·.accountVersion + 1)).getD 1
  passwordMaterialVersion := (r.newestMaterial.map (·.passwordMaterialVersion)).getD 0
  passwordMaterial := r.newestMaterial.bind (·.passwordMaterial)
  oauthSubjects := if r.newestMaterial.isSome then .empty else r.oauth.provisioned
  provisioningWorkflowID := some workflowID
  updatedAt := now

def prepareWorkflowTargetAccount (target : NodeID) (now : Time) (r : Rows) : Option Rows :=
  let old := r.accounts.get? target
  if old.any fun a => a.status = .active then some r
  else if (old.all fun a => a.status ≠ .disabled && a.status ≠ .conflict) ∧
      (r.newestMaterial.isSome ∨ r.oauth ≠ .empty) then
    some { r with accounts := r.accounts.put target (preparedAccount workflowID now r old) }
  else none

def createTransfer (workflowType : WorkflowType) (target : NodeID) (now : Time) (r : Rows) :
    Option Rows :=
  if r.liveWorkflow = false ∧ r.workflows.get? workflowID = none ∧
      workflowType ≠ .conflictResolution then
    (prepareWorkflowTargetAccount workflowID target now r).map fun r' => { r' with
      workflows := r'.workflows.put workflowID
        { workflowType, targetNodeID := target, live := true } }
  else none

def endWorkflow (r : Rows) : Rows :=
  { r with workflows := r.workflows.modify workflowID fun w => { w with live := false } }

def endSnapshotWorkflow (r : Rows) : Option Rows :=
  match r.workflows.get? workflowID with
  | none => none
  | some w => if w.live ∧ w.workflowType = .snapshot then some (endWorkflow workflowID r) else none

end

def AccountRow.giveUp (now : Time) (a : AccountRow) : AccountRow :=
  if a.status = .pending then
    { a with status := .error, provisioningWorkflowID := none, updatedAt := now }
  else a

def failRestoreWorkflow (workflowID : UUID) (now : Time) (r : Rows) : Option Rows :=
  match r.workflows.get? workflowID with
  | none => none
  | some w =>
    if w.live ∧ w.workflowType = .restore then
      some { endWorkflow workflowID r with
        accounts := r.accounts.modify w.targetNodeID (giveUp now) }
    else none

/-- `CompleteWorkflowTargetAccountProvision`; where it is refused, or the account is active already,
nothing changes. -/
def completeWorkflowTargetAccountProvision (workflowID : UUID) (accountVersion : ℕ) (now : Time)
    (r : Rows) : Rows :=
  match r.workflows.get? workflowID with
  | none => r
  | some w =>
    if w.live ∧ (r.accounts.get? w.targetNodeID).any fun a =>
        a.status = .pending && a.accountVersion = accountVersion then
      { r with
        accounts := r.accounts.modify w.targetNodeID fun a => { a with
          status := .active, provisioningWorkflowID := none, updatedAt := now } }
    else r

/-! ## Homes, imports and conflicts -/

def AccountRow.switch (source target : NodeID) (now : Time) (node : NodeID) (a : AccountRow) :
    AccountRow :=
  if node = target then { a with status := .active, updatedAt := now }
  else if node = source then { a with status := .stale, updatedAt := now }
  else a

def switchHome (source target : NodeID) (now : Time) (r : Rows) : Option Rows :=
  if (r.accounts.get? target).any fun a => a.status = .active then
    some { r with accounts := r.accounts.mapRows (switch source target now) }
  else none

def completeRestoreWorkflow (workflowID : UUID) (source : NodeID) (now : Time) (r : Rows) :
    Option Rows :=
  match r.workflows.get? workflowID with
  | none => none
  | some w =>
    if w.live ∧ w.workflowType = .restore then
      switchHome source w.targetNodeID now (endWorkflow workflowID r)
    else none

def importedAccount (handle : String) (subjects : Subjects) (now : Time) : AccountRow where
  localHandle := handle
  status := .active
  accountVersion := 1
  passwordMaterialVersion := 0
  passwordMaterial := none
  oauthSubjects := subjects
  provisioningWorkflowID := none
  updatedAt := now

/-- The user has data on another node; `otherReplicas` says so of the replica rows. -/
def Rows.otherData (r : Rows) (node : NodeID) (otherReplicas : Bool) : Bool :=
  otherReplicas || r.accounts.any fun n _ => n ≠ node

/-- The linking of an account by an OAuth identity: at the import, which records the identities of
the user (`relink = false`), or when the identity is proved later, where the account may exist. -/
def linkImportCandidate (node : NodeID) (handle : String) (relink otherReplicas : Bool)
    (now : Time) (r : Rows) : Option Rows :=
  if (r.globalStatus = .active ∨ r.globalStatus = .conflict ∨
      (r.globalStatus = .recovering ∧ relink = false)) ∧
      (relink ∨ r.accounts.get? node = none) then
    let account := (r.accounts.get? node).getD
      (importedAccount handle (if relink then .empty else r.oauth) now)
    let linked := { r with accounts := r.accounts.put node account }
    some (if r.otherData node otherReplicas then freezeImportedReplicaConflict now linked
      else linked)
  else none

def completeAccountImportClaim (node : NodeID) (handle : String) (now : Time) (r : Rows) :
    Option Rows :=
  if r.globalStatus = .active ∧ r.accounts.get? node = none then
    some { r with accounts := r.accounts.put node (importedAccount handle .empty now) }
  else none

def AccountRow.resolve (base : NodeID) (now : Time) (node : NodeID) (a : AccountRow) : AccountRow :=
  if a.status = .conflict then
    { a with status := if node = base then .active else .stale, updatedAt := now }
  else a

def completeConflictResolution (base : NodeID) (now : Time) (r : Rows) : Option Rows :=
  if r.globalStatus = .conflict ∧ r.legacyStatus = .conflict then
    some { r with
      globalStatus := .active, legacyStatus := .active
      accounts := r.accounts.mapRows (resolve base now) }
  else none

def AccountRow.retire (now : Time) (a : AccountRow) : AccountRow :=
  if a.status = .pending ∨ a.status = .active ∨ a.status = .conflict then
    { a with status := .stale, updatedAt := now }
  else a

def completeNodeRetirementReplicaItem (node : NodeID) (now : Time) (r : Rows) : Rows :=
  { r with accounts := r.accounts.modify node (retire now) }

/-- `UpdateUserStatus`, as the administrator's request to disable a user calls it. -/
def disableUser (r : Rows) : Rows := { r with legacyStatus := .disabled }

/-! ## Registration -/

inductive Credential
  | password (hash : PasswordHash) (material : Material)
  | oauth (provider : Provider) (subject : String)
  deriving DecidableEq

def Credential.subjects : Credential → Subjects
  | .password .. => .empty
  | .oauth provider subject => Subjects.empty.set provider (some subject)

def Credential.material : Credential → Option Material
  | .password _ material => some material
  | .oauth .. => none

def registeredRows (username : String) (home : NodeID) (credential : Credential) (now : Time) :
    Rows where
  username := username
  globalStatus := .active
  legacyStatus := .active
  password :=
    match credential with
    | .password hash _ => some (freshPassword hash)
    | .oauth .. => none
  oauth := credential.subjects
  accounts := Table.put ∅ home
    { localHandle := username, status := .active, accountVersion := 1
      passwordMaterialVersion := if credential.material.isSome then 1 else 0
      passwordMaterial := credential.material, oauthSubjects := credential.subjects
      provisioningWorkflowID := none, updatedAt := now }
  removals := ∅
  syncs := fun _ => ∅
  workflows := ∅

end StControl.Convergence
