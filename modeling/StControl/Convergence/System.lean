import StControl.Convergence.Rows
import StControl.Foundations.Run
import StControl.Foundations.Versioned

/-!
# Deliveries to the nodes

What the rows of a user say reaches a node in a command.  A node answers it, but the answer may be
late or lost; a command for which the controller has stopped waiting may still be executed, and
nothing keeps two commands for one account in order.  Each password and each identity therefore
carries a version, and a node takes what is offered exactly if its version is larger than the one it
holds (`Versioned`): this is what is assumed about the adapter on the node, which is not part of the
repository.  The request that restores an account carries the version of the account only; the
password in it is taken to be offered under the version that its row has.

`System` puts the rows, the local accounts of the nodes, and the commands together.  A step is a
transaction on the rows, the sending of a command, its execution on a node, or its end at the
controller, which records the answer in the rows.

The controller sends passwords under a mutex.  A request that changes or binds a password holds it
from the transaction on, and sends the password that it has in memory under the version that it then
reads (`handler`); everything else sends what the rows say.  Reading the rows and sending the
command is one step here, as nothing else is sent to that account in between.
-/

namespace StControl.Convergence

open Store (NodeID UUID Time WorkflowType)
open Run Option Table

/-! ## Nodes and commands -/

structure LocalAccount where
  password : Versioned (Option Material)
  identities : Provider → Versioned (Option String)

def LocalAccount.fresh : LocalAccount := ⟨⟨0, none⟩, fun _ => ⟨0, none⟩⟩

inductive Request
  /-- `set_password`; without material, the password is removed. -/
  | setPassword (password : Versioned (Option Material))
  /-- `set_oauth_identity`. -/
  | setOAuthIdentity (provider : Provider) (subject : String) (present : Bool) (version : ℕ)
  /-- `restore_user_account`. -/
  | restoreUserAccount (workflowID : UUID) (accountVersion : ℕ)
      (password : Versioned (Option Material)) (identity : Option (Provider × String))
  deriving DecidableEq

structure Command where
  node : NodeID
  handle : String
  request : Request
  deriving DecidableEq

def Request.password : Request → Option (Versioned (Option Material))
  | .setPassword password => some password
  | .setOAuthIdentity .. => none
  | .restoreUserAccount _ _ password _ => some password

def Request.identity : Request → Provider → Option (Versioned (Option String))
  | .setPassword _, _ => none
  | .setOAuthIdentity provider subject present version, p =>
    if p = provider then some ⟨version, if present then some subject else none⟩ else none
  | .restoreUserAccount _ accountVersion _ identity, p =>
    identity.bind fun i => if p = i.1 then some ⟨accountVersion, some i.2⟩ else none

inductive Answer
  | ok | conflict | failed
  deriving DecidableEq

section

variable (account : LocalAccount)

def LocalAccount.apply (request : Request) : LocalAccount where
  password := (request.password.map account.password.offer).getD account.password
  identities p :=
    ((request.identity p).map (account.identities p).offer).getD (account.identities p)

def LocalAccount.acknowledges (request : Request) : Bool :=
  request.password.all account.password.acknowledges &&
    (request.identity .discord).all (account.identities .discord).acknowledges &&
    (request.identity .linuxdo).all (account.identities .linuxdo).acknowledges

def LocalAccount.answer (request : Request) : Answer :=
  if account.acknowledges request then .ok
  else
    match request with
    | .setOAuthIdentity .. => .conflict
    | _ => .failed

end

/-! ## The system -/

/-- The rows, the nodes, and the commands: those that were sent, newest first, with the answers that
were given so far, and those for which the controller waits.  `handler` is the password of a request
that holds the mutex, and `staged` the newest password that was staged. -/
structure System where
  rows : Rows
  nodes : NodeID → String → LocalAccount
  sent : List Command
  answers : List (Command × Answer)
  waiting : List Command
  (handler staged : Option Material)

inductive Transaction
  | updateUserPassword (hash : PasswordHash) (material : Material) (now : Time)
  | bindPasswordIdentity (hash : PasswordHash) (material : Material) (now : Time)
  | recoverUserPasswordIdentity (hash : PasswordHash) (material : Material) (now : Time)
  | unbindPassword (now : Time)
  | clearPasswordFallbackIfConverged
  | bindOAuthIdentity (provider : Provider) (subject : String) (now : Time)
  | unbindOAuthIdentity (provider : Provider) (now : Time)
  | reconcileOAuthIdentitySyncIntents (now : Time)
  | disableUser
  | createTransfer (workflowID : UUID) (workflowType : WorkflowType) (target : NodeID) (now : Time)
  | endSnapshotWorkflow (workflowID : UUID)
  | failRestoreWorkflow (workflowID : UUID) (now : Time)
  | completeRestoreWorkflow (workflowID : UUID) (source : NodeID) (now : Time)
  | switchHome (source target : NodeID) (now : Time)
  | linkImportCandidate (node : NodeID) (handle : String) (relink otherReplicas : Bool) (now : Time)
  | completeAccountImportClaim (node : NodeID) (handle : String) (now : Time)
  | completeConflictResolution (base : NodeID) (now : Time)
  | completeNodeRetirementReplicaItem (node : NodeID) (now : Time)
  deriving DecidableEq

section

variable (r : Rows)

def Rows.perform : Transaction → Option Rows
  | .updateUserPassword hash material now => Convergence.updateUserPassword hash material now r
  | .bindPasswordIdentity hash material now => Convergence.bindPasswordIdentity hash material now r
  | .recoverUserPasswordIdentity hash material now =>
    Convergence.recoverUserPasswordIdentity hash material now r
  | .unbindPassword now => Convergence.unbindPassword now r
  | .clearPasswordFallbackIfConverged => some (Convergence.clearPasswordFallbackIfConverged r)
  | .bindOAuthIdentity provider subject now => Convergence.bindOAuthIdentity provider subject now r
  | .unbindOAuthIdentity provider now => Convergence.unbindOAuthIdentity provider now r
  | .reconcileOAuthIdentitySyncIntents now =>
    some (Convergence.reconcileOAuthIdentitySyncIntents now r)
  | .disableUser => some (Convergence.disableUser r)
  | .createTransfer workflowID workflowType target now =>
    Convergence.createTransfer workflowID workflowType target now r
  | .endSnapshotWorkflow workflowID => Convergence.endSnapshotWorkflow workflowID r
  | .failRestoreWorkflow workflowID now => Convergence.failRestoreWorkflow workflowID now r
  | .completeRestoreWorkflow workflowID source now =>
    Convergence.completeRestoreWorkflow workflowID source now r
  | .switchHome source target now => Convergence.switchHome source target now r
  | .linkImportCandidate node handle relink otherReplicas now =>
    Convergence.linkImportCandidate node handle relink otherReplicas now r
  | .completeAccountImportClaim node handle now =>
    Convergence.completeAccountImportClaim node handle now r
  | .completeConflictResolution base now => Convergence.completeConflictResolution base now r
  | .completeNodeRetirementReplicaItem node now =>
    some (Convergence.completeNodeRetirementReplicaItem node now r)

/-- The handler that holds the mutex after a transaction; `none` where it would have to wait. -/
def nextHandler (handler : Option Material) : Transaction → Option (Option Material)
  | .updateUserPassword _ material _ | .bindPasswordIdentity _ material _ =>
    if handler.isNone then some (some material) else none
  | .recoverUserPasswordIdentity .. => if handler.isNone then some none else none
  | _ => some handler

def nextStaged (staged : Option Material) : Transaction → Option Material
  | .updateUserPassword _ material _ | .bindPasswordIdentity _ material _
  | .recoverUserPasswordIdentity _ material _ => some material
  | .unbindPassword _ => none
  | _ => staged

def Transaction.imports : Transaction → Option (NodeID × String)
  | .linkImportCandidate node handle .. | .completeAccountImportClaim node handle _ =>
    some (node, handle)
  | _ => none

/-- The local accounts after a transaction: an account that is imported is what it is on its node.
-/
def importedNodes (known : LocalAccount) (nodes : NodeID → String → LocalAccount)
    (t : Transaction) :
    NodeID → String → LocalAccount :=
  match t.imports with
  | some (node, handle) =>
    if r.accounts.get? node = none then
      fun n h => if n = node ∧ h = handle then known else nodes n h
    else nodes
  | none => nodes

inductive Sending
  | password (node : NodeID)
  | removal (node : NodeID)
  | identity (node : NodeID) (provider : Provider)
  | account (workflowID : UUID)
  deriving DecidableEq

def AccountRow.provisionedIdentity (a : AccountRow) : Option (Provider × String) :=
  if a.passwordMaterial.isSome then none
  else
    match a.oauthSubjects.discord with
    | some subject => some (.discord, subject)
    | none => a.oauthSubjects.linuxdo.map fun subject => (.linuxdo, subject)

def System.command (s : System) : Sending → Option Command
  | .password node => do
    let a ← s.rows.accounts.get? node
    match s.handler with
    | some material =>
      if a.staged then
        some ⟨node, a.localHandle, .setPassword ⟨a.passwordMaterialVersion, some material⟩⟩
      else none
    | none =>
      if a.pendingPasswordSync then
        some ⟨node, a.localHandle, .setPassword ⟨a.passwordMaterialVersion, a.passwordMaterial⟩⟩
      else none
  | .removal node => do
    let removal ← s.rows.removals.get? node
    if pendingPasswordRemoval s.rows node then
      some ⟨node, removal.localHandle, .setPassword ⟨removal.passwordMaterialVersion, none⟩⟩
    else none
  | .identity node provider => do
    let sync ← (s.rows.syncs provider).get? node
    if pendingOAuthIdentitySync s.rows provider node then
      some ⟨node, sync.localHandle,
        .setOAuthIdentity provider sync.subject sync.desiredPresent sync.accountVersion⟩
    else none
  | .account workflowID => do
    let w ← s.rows.workflows.get? workflowID
    let a ← s.rows.accounts.get? w.targetNodeID
    if w.live ∧ a.status ≠ .active ∧ (w.workflowType = .snapshot → a.status = .pending) then
      some ⟨w.targetNodeID, s.rows.username, .restoreUserAccount workflowID a.accountVersion
        ⟨a.passwordMaterialVersion, a.passwordMaterial⟩ a.provisionedIdentity⟩
    else none

def Rows.record (c : Command) (answer : Answer) (now : Time) : Rows :=
  match c.request with
  | .setPassword ⟨_, some _⟩ =>
    if answer = .ok then activateNodeAccount c.node now r else markNodeAccountError c.node now r
  | .setPassword ⟨version, none⟩ => endPasswordRemoval c.node version (answer = .ok) now r
  | .setOAuthIdentity provider subject present version =>
    if answer = .conflict then
      freezeOAuthIdentitySyncConflict c.node provider c.handle subject version present now r
    else endOAuthIdentitySync c.node provider c.handle subject version present (answer = .ok) now r
  | .restoreUserAccount workflowID accountVersion _ _ =>
    if answer = .ok then completeWorkflowTargetAccountProvision workflowID accountVersion now r
    else r

/-- What can happen.  A transaction that imports an account comes with what that account is on its
node. -/
inductive Act
  | transact (t : Transaction) (known : LocalAccount)
  | send (sending : Sending)
  | execute (c : Command)
  | finish (c : Command) (answer : Answer) (now : Time)
  | releaseHandler

/-- The answer can be recorded: a node has given it, or the controller has not got one in time. -/
def System.answered (s : System) (c : Command) (answer : Answer) : Bool :=
  answer = .failed || (c, answer) ∈ s.answers

def System.executed (s : System) (c : Command) : System :=
  { s with
    nodes := fun node handle =>
      if node = c.node ∧ handle = c.handle then (s.nodes node handle).apply c.request
      else s.nodes node handle
    answers := (c, (s.nodes c.node c.handle).answer c.request) :: s.answers }

def step (s : System) : Act → Option System
  | .transact t known => do
    let handler ← nextHandler s.handler t
    let rows ← s.rows.perform t
    return { s with
      rows, handler
      nodes := importedNodes s.rows known s.nodes t, staged := nextStaged s.staged t }
  | .send sending =>
    (s.command sending).map fun c => { s with sent := c :: s.sent, waiting := c :: s.waiting }
  | .execute c => if c ∈ s.sent then some (s.executed c) else none
  | .finish c answer now =>
    if c ∈ s.waiting ∧ s.answered c answer then
      some { s with rows := s.rows.record c answer now, waiting := s.waiting.erase c }
    else none
  | .releaseHandler => some { s with handler := none }

def registered (username : String) (home : NodeID) (credential : Credential) (now : Time) :
    System where
  rows := registeredRows username home credential now
  nodes := fun node handle =>
    if node = home ∧ handle = username then
      { password := ⟨if credential.material.isSome then 1 else 0, credential.material⟩
        identities := fun p => ⟨0, credential.subjects.get p⟩ }
    else .fresh
  sent := []
  answers := []
  waiting := []
  handler := none
  staged := credential.material

/-- A user who has just registered with a password, with an account on node `1`. -/
def newUser : System := registered "ana" 1 (.password "first" ⟨"first", "salt"⟩) 0

lemma of_get?_registeredRows {username : String} {home node : NodeID} {credential : Credential}
    {now : Time} {a : AccountRow}
    (h : (registeredRows username home credential now).accounts.get? node = some a) :
    node = home ∧ a = ⟨username, .active, 1, if credential.material.isSome then 1 else 0,
      credential.material, credential.subjects, none, now⟩ := by
  simp only [registeredRows, get?_put, get?_empty, ite_none_right_eq_some, some.injEq] at h
  exact ⟨h.1, h.2.symm⟩

/-! ## What a transaction does to the accounts -/

def Transaction.rewrite : Transaction → NodeID → AccountRow → AccountRow
  | .updateUserPassword _ material now, _ | .bindPasswordIdentity _ material now, _
  | .recoverUserPasswordIdentity _ material now, _ => AccountRow.stage material now
  | .unbindPassword now, _ => AccountRow.dropPassword now
  | .bindOAuthIdentity provider subject now, _ => AccountRow.setSubject provider (some subject) now
  | .unbindOAuthIdentity provider now, _ => AccountRow.setSubject provider none now
  | .failRestoreWorkflow workflowID now, node => fun a =>
    if (r.workflows.get? workflowID).any fun w => node = w.targetNodeID then a.giveUp now else a
  | .completeRestoreWorkflow workflowID source now, node => fun a =>
    ((r.workflows.get? workflowID).map fun w => a.switch source w.targetNodeID now node).getD a
  | .switchHome source target now, node => AccountRow.switch source target now node
  | .linkImportCandidate imported _ _ otherReplicas now, _ => fun a =>
    if r.otherData imported otherReplicas then a.freeze now else a
  | .completeConflictResolution base now, node => AccountRow.resolve base now node
  | .completeNodeRetirementReplicaItem retired now, node => fun a =>
    if node = retired then a.retire now else a
  | _, _ => id

/-- The account that a transaction writes first: the one that a transfer prepares, or that is
imported. -/
def Transaction.written : Transaction → Option (NodeID × AccountRow)
  | .createTransfer workflowID _ target now =>
    if (r.accounts.get? target).any fun a => a.status = .active then none
    else some (target, preparedAccount workflowID now r (r.accounts.get? target))
  | .linkImportCandidate node handle relink _ now =>
    if r.accounts.get? node = none then
      some (node, importedAccount handle (if relink then .empty else r.oauth) now)
    else none
  | .completeAccountImportClaim node handle now => some (node, importedAccount handle .empty now)
  | _ => none

def Transaction.accountBefore (t : Transaction) (node : NodeID) : Option AccountRow :=
  match t.written r with
  | some (n, a) => if node = n then some a else r.accounts.get? node
  | none => r.accounts.get? node

end

variable {source target : NodeID} {now : Time} {r r' : Rows} {t : Transaction} {workflowID : UUID}

lemma get?_switchHome {node : NodeID} (h : switchHome source target now r = some r') :
    r'.accounts.get? node = (r.accounts.get? node).map
    (AccountRow.switch source target now node) := by
  obtain ⟨-, rfl⟩ := of_guarded h
  exact get?_mapRows _ _ _

lemma exists_completeRestoreWorkflow (h : completeRestoreWorkflow workflowID source now r =
    some r') :
    ∃ w, r.workflows.get? workflowID = some w ∧
      switchHome source w.targetNodeID now (endWorkflow workflowID r) = some r' := by
  unfold completeRestoreWorkflow at h
  split at h
  · cases h
  next w hw => exact ⟨w, hw, (ite_none_right_eq_some.mp h).2⟩

lemma get?_perform (h : r.perform t = some r') (node : NodeID) :
    r'.accounts.get? node = (t.accountBefore r node).map (t.rewrite r node) := by
  cases t with
  | updateUserPassword hash material now =>
    obtain ⟨identity, -, rfl⟩ := map_eq_some_iff.mp h
    exact get?_mapRows _ _ _
  | bindPasswordIdentity hash material now | recoverUserPasswordIdentity hash material now
  | unbindPassword now | bindOAuthIdentity provider subject now
  | completeConflictResolution base now =>
    obtain ⟨-, rfl⟩ := of_guarded h
    exact get?_mapRows _ _ _
  | clearPasswordFallbackIfConverged =>
    cases h
    unfold clearPasswordFallbackIfConverged
    split <;> exact map_id'.symm
  | unbindOAuthIdentity provider now =>
    simp only [Rows.perform, unbindOAuthIdentity] at h
    split at h
    · cases h
    · obtain ⟨-, rfl⟩ := of_guarded h
      exact get?_mapRows _ _ _
  | reconcileOAuthIdentitySyncIntents | disableUser =>
    cases h
    exact map_id'.symm
  | createTransfer workflowID workflowType target now =>
    simp only [Rows.perform, createTransfer, ite_none_right_eq_some, map_eq_some_iff] at h
    obtain ⟨-, rows, hprepared, rfl⟩ := h
    simp only [prepareWorkflowTargetAccount] at hprepared
    simp only [Transaction.accountBefore, Transaction.written]
    split at hprepared
    next hactive =>
      cases hprepared
      rw [if_pos hactive]
      exact map_id'.symm
    next hactive =>
      obtain ⟨-, rfl⟩ := of_guarded hprepared
      rw [if_neg hactive]
      exact (get?_put _ _ _ _).trans map_id'.symm
  | endSnapshotWorkflow workflowID =>
    simp only [Rows.perform, endSnapshotWorkflow] at h
    split at h
    · cases h
    · obtain ⟨-, rfl⟩ := of_guarded h
      exact map_id'.symm
  | failRestoreWorkflow workflowID now =>
    simp only [Rows.perform, failRestoreWorkflow] at h
    split at h
    · cases h
    next w hw =>
      obtain ⟨-, rfl⟩ := of_guarded h
      simp only [Transaction.accountBefore, Transaction.written, Transaction.rewrite, hw,
        Option.any_some, decide_eq_true_eq]
      exact get?_modify_eq_map ..
  | completeRestoreWorkflow workflowID source now =>
    obtain ⟨w, hw, hswitch⟩ := exists_completeRestoreWorkflow h
    simp only [Transaction.accountBefore, Transaction.written, Transaction.rewrite, hw, map_some,
      getD_some]
    exact (get?_switchHome hswitch : r'.accounts.get? node = _)
  | switchHome => exact get?_switchHome h
  | linkImportCandidate imported handle relink otherReplicas now =>
    obtain ⟨-, rfl⟩ := of_guarded h
    simp only [Transaction.accountBefore, Transaction.written, Transaction.rewrite]
    -- A link of an account that exists puts back the row that is there.
    cases hrow : r.accounts.get? imported with
    | none =>
      rw [if_pos rfl, getD_none]
      split
      next => exact (get?_mapRows _ _ _).trans (by rw [get?_put])
      next => exact (get?_put _ _ _ _).trans map_id'.symm
    | some a =>
      rw [if_neg (some_ne_none a), getD_some]
      have hsame : (r.accounts.put imported a).get? node = r.accounts.get? node := by
        rw [get?_put]
        split
        next hnode => rw [hnode, hrow]
        next => rfl
      split
      next => exact (get?_mapRows _ _ _).trans (by rw [hsame])
      next => exact hsame.trans map_id'.symm
  | completeAccountImportClaim imported handle now =>
    obtain ⟨-, rfl⟩ := of_guarded h
    exact (get?_put _ _ _ _).trans map_id'.symm
  | completeNodeRetirementReplicaItem retired now =>
    cases h
    exact get?_modify_eq_map ..

/-! ## What a transaction does to the other rows -/

def Transaction.changesPassword : Transaction → Bool
  | .updateUserPassword .. | .bindPasswordIdentity .. | .recoverUserPasswordIdentity ..
  | .unbindPassword .. | .clearPasswordFallbackIfConverged => true
  | _ => false

def Transaction.changesOAuth : Transaction → Bool
  | .bindOAuthIdentity .. | .unbindOAuthIdentity .. => true
  | _ => false

def Transaction.stages : Transaction → Bool
  | .updateUserPassword .. | .bindPasswordIdentity .. | .recoverUserPasswordIdentity .. => true
  | _ => false

def Transaction.switches (r : Rows) : Transaction → Option NodeID
  | .completeRestoreWorkflow workflowID _ _ => (r.workflows.get? workflowID).map (·.targetNodeID)
  | .switchHome _ target _ => some target
  | _ => none

def Transaction.ends : Transaction → Option UUID
  | .endSnapshotWorkflow workflowID | .failRestoreWorkflow workflowID _
  | .completeRestoreWorkflow workflowID _ _ => some workflowID
  | _ => none

structure Transaction.Spares (t : Transaction) (r r' : Rows) : Prop where
  username : r'.username = r.username
  password : t.changesPassword = false → r'.password = r.password
  oauth : t.changesOAuth = false → r'.oauth = r.oauth
  syncs : t.changesOAuth = false → (∀ now, t ≠ .reconcileOAuthIdentitySyncIntents now) →
    r'.syncs = r.syncs
  workflows : t.ends = none → (∀ id workflowType target now,
    t ≠ .createTransfer id workflowType target now) → r'.workflows = r.workflows
  ended : ∀ id, t.ends = some id → r'.workflows = (endWorkflow id r).workflows

lemma perform_spares (h : r.perform t = some r') : t.Spares r r' := by
  cases t <;>
    simp only [Rows.perform, updateUserPassword, bindPasswordIdentity, recoverUserPasswordIdentity,
      unbindPassword, clearPasswordFallbackIfConverged, bindOAuthIdentity, unbindOAuthIdentity,
      createTransfer, prepareWorkflowTargetAccount, endSnapshotWorkflow, failRestoreWorkflow,
      completeRestoreWorkflow, switchHome, linkImportCandidate, completeAccountImportClaim,
      completeConflictResolution, ite_none_right_eq_some, map_eq_some_iff,
      some.injEq] at h <;>
    constructor <;>
    grind [stagePasswordMaterial, stagePasswordRemovals, stageOAuthIdentitySyncs, endWorkflow,
      freezeImportedReplicaConflict, reconcileOAuthIdentitySyncIntents, disableUser,
      completeNodeRetirementReplicaItem, Transaction.changesPassword, Transaction.changesOAuth,
      Transaction.ends]

section Rewrites

variable (r : Rows) (t : Transaction) (node : NodeID) (a : AccountRow)

inductive Transaction.Rewrites : AccountRow → Prop
  | same (quiet : ∀ before, nextStaged before t = before) : Rewrites a
  | staged {material} {now : Time} (stages : t.stages)
    (next : ∀ before, nextStaged before t = some material) (staged : a.staged) :
    Rewrites { a with
      status := .pending, passwordMaterial := some material
      passwordMaterialVersion := a.passwordMaterialVersion + 1
      accountVersion := a.accountVersion + 1, updatedAt := now }
  | unstaged {material} (stages : t.stages)
    (next : ∀ before, nextStaged before t = some material) (unstaged : ¬ a.staged) : Rewrites a
  | dropped {now : Time} (unbinds : t = .unbindPassword now) : Rewrites (a.dropPassword now)
  | identity {provider subject} {now : Time}
    (quiet : ∀ before, nextStaged before t = before) (changes : t.changesOAuth) :
    Rewrites (a.setSubject provider subject now)
  | givenUp {workflowID : UUID} {w} {now : Time}
    (fails : t = .failRestoreWorkflow workflowID now)
    (found : r.workflows.get? workflowID = some w) (target : node = w.targetNodeID)
    (pending : a.status = .pending) :
    Rewrites { a with status := .error, provisioningWorkflowID := none, updatedAt := now }
  | activated {now : Time} (quiet : ∀ before, nextStaged before t = before)
    (was : a.status = .conflict ∨ t.switches r = some node) :
    Rewrites { a with status := .active, updatedAt := now }
  | superseded {now : Time} : Rewrites { a with status := .stale, updatedAt := now }
  | frozen {imported handle relink otherReplicas} {now : Time}
    (links : t = .linkImportCandidate imported handle relink otherReplicas now)
    (other : r.otherData imported otherReplicas) (freezable : a.freezable) :
    Rewrites { a with status := .conflict, updatedAt := now }

lemma Transaction.rewrites : t.Rewrites r node a (t.rewrite r node a) := by
  have hstage {material now} (hstages : t.stages)
      (hnext : ∀ before, nextStaged before t = some material) :
      t.Rewrites r node a (a.stage material now) := by
    unfold AccountRow.stage
    split_ifs with hstaged
    · exact .staged hstages hnext hstaged
    · exact .unstaged hstages hnext hstaged
  have hswitch {source target now} (hquiet : ∀ before, nextStaged before t = before)
      (hswitches : t.switches r = some target) :
      t.Rewrites r node a (a.switch source target now node) := by
    unfold AccountRow.switch
    split_ifs with htarget
    · exact .activated hquiet (.inr (htarget ▸ hswitches))
    · exact .superseded
    · exact .same hquiet
  cases t with
  | updateUserPassword | bindPasswordIdentity
  | recoverUserPasswordIdentity => exact hstage rfl fun _ => rfl
  | unbindPassword => exact .dropped rfl
  | bindOAuthIdentity | unbindOAuthIdentity => exact .identity (fun _ => rfl) rfl
  | failRestoreWorkflow =>
    simp only [Transaction.rewrite, AccountRow.giveUp]
    split_ifs with htarget hpending
    · obtain ⟨w, hw, hnode⟩ := (Option.any_eq_true ..).mp htarget
      exact .givenUp rfl hw (of_decide_eq_true hnode) hpending
    all_goals exact .same fun _ => rfl
  | completeRestoreWorkflow workflowID =>
    simp only [Transaction.rewrite]
    cases hw : r.workflows.get? workflowID with
    | none => exact .same fun _ => rfl
    | some w => exact hswitch (fun _ => rfl) (by rw [Transaction.switches, hw]; rfl)
  | switchHome => exact hswitch (fun _ => rfl) rfl
  | linkImportCandidate =>
    simp only [Transaction.rewrite, AccountRow.freeze]
    split_ifs with hother hfreezable
    · exact .frozen rfl hother hfreezable
    all_goals exact .same fun _ => rfl
  | completeConflictResolution =>
    simp only [Transaction.rewrite, AccountRow.resolve]
    split_ifs with hconflict hbase
    · exact .activated (fun _ => rfl) (.inl hconflict)
    · exact .superseded
    · exact .same fun _ => rfl
  | completeNodeRetirementReplicaItem =>
    simp only [Transaction.rewrite, AccountRow.retire]
    split_ifs
    · exact .superseded
    all_goals exact .same fun _ => rfl
  | _ => exact .same fun _ => rfl

end Rewrites

lemma active_of_switchHome {a : AccountRow} (h : switchHome source target now r = some r')
    (ha : r.accounts.get? target = some a) : a.status = .active := by
  simp only [switchHome, ite_none_right_eq_some] at h
  simpa only [ha, Option.any_some, decide_eq_true_eq] using h.1

lemma exists_failRestoreWorkflow (h : failRestoreWorkflow workflowID now r = some r') :
    ∃ w, r.workflows.get? workflowID = some w := by
  unfold failRestoreWorkflow at h
  split at h
  · cases h
  next w hw => exact ⟨w, hw⟩

section

variable (h : r.perform t = some r')
include h

lemma active_of_switches {node : NodeID} {a : AccountRow} (hswitches : t.switches r = some node)
    (ha : r.accounts.get? node = some a) : a.status = .active := by
  cases t with
  | completeRestoreWorkflow workflowID =>
    obtain ⟨w, hw, hswitch⟩ := exists_completeRestoreWorkflow h
    simp only [Transaction.switches, hw, map_some, some.injEq] at hswitches
    exact active_of_switchHome hswitch (hswitches ▸ ha)
  | switchHome => exact active_of_switchHome h (some.inj hswitches ▸ ha)
  | _ => cases hswitches

lemma workflow_kept {id : UUID} {w : TransferWorkflow} (hends : t.ends ≠ some id)
    (hw : r.workflows.get? id = some w) : r'.workflows.get? id = some w := by
  cases hended : t.ends with
  | some ended =>
    have hne : id ≠ ended := by
      rintro rfl
      exact hends hended
    rw [(perform_spares h).ended ended hended]
    exact (get?_modify_of_ne hne).trans hw
  | none =>
    cases t with
    | createTransfer workflowID workflowType target now =>
      simp only [Rows.perform, createTransfer, ite_none_right_eq_some, map_eq_some_iff] at h
      obtain ⟨⟨-, hfresh, -⟩, rows, hprepared, rfl⟩ := h
      have hne : id ≠ workflowID := by
        rintro rfl
        cases hw.symm.trans hfresh
      have hsame : rows.workflows = r.workflows := by
        simp only [prepareWorkflowTargetAccount] at hprepared
        split at hprepared
        · cases hprepared
          rfl
        · obtain ⟨-, rfl⟩ := of_guarded hprepared
          rfl
      exact (get?_put_of_ne hne).trans (hsame ▸ hw)
    | _ => exact (perform_spares h).workflows hended nofun ▸ hw

lemma target_kept {id : UUID} {w : TransferWorkflow} (hw : r.workflows.get? id = some w) :
    ∃ w', r'.workflows.get? id = some w' ∧ w'.targetNodeID = w.targetNodeID := by
  by_cases hends : t.ends = some id
  · refine ⟨{ w with live := false }, ?_, rfl⟩
    rw [(perform_spares h).ended id hends, endWorkflow, get?_modify_self, hw]
    rfl
  · exact ⟨w, workflow_kept h hends hw, rfl⟩

end

/-! ## What the end of a command does to the accounts -/

def AccountRow.activate (now : Time) (a : AccountRow) : AccountRow :=
  if a.staged then { a with status := .active, updatedAt := now } else a

def Command.freezes (r : Rows) (c : Command) (answer : Answer) : Bool :=
  match c.request with
  | .setOAuthIdentity provider subject present version =>
    answer = .conflict && r.globalStatus ≠ .deleted &&
      ((r.syncs provider).get? c.node).any (·.isFor c.handle subject version present)
  | _ => false

def Command.provisions (r : Rows) (c : Command) (answer : Answer) (node : NodeID) : Bool :=
  match c.request with
  | .restoreUserAccount workflowID accountVersion _ _ =>
    answer = .ok && (r.workflows.get? workflowID).any fun w =>
      w.live && w.targetNodeID = node && (r.accounts.get? node).any fun a =>
        a.status = .pending && a.accountVersion = accountVersion
  | _ => false

def Command.rewrite (r : Rows) (c : Command) (answer : Answer) (now : Time) (node : NodeID) :
    AccountRow → AccountRow :=
  match c.request with
  | .setPassword ⟨_, some _⟩ => fun a =>
    if node = c.node then
      if answer = .ok then a.activate now else { a with status := .error, updatedAt := now }
    else a
  | .setPassword ⟨_, none⟩ => id
  | .setOAuthIdentity .. => fun a => if c.freezes r answer then a.freeze now else a
  | .restoreUserAccount .. => fun a =>
    if c.provisions r answer node then
      { a with status := .active, provisioningWorkflowID := none, updatedAt := now }
    else a

lemma get?_activateNodeAccount (target node : NodeID) (now : Time) (r : Rows) :
    (activateNodeAccount target now r).accounts.get? node =
      (r.accounts.get? node).map fun a => if node = target then a.activate now else a := by
  unfold activateNodeAccount
  split
  next hstaged =>
    rw [get?_modify]
    split
    next hnode =>
      subst hnode
      rw [Option.any_eq_true] at hstaged
      obtain ⟨a, ha, hstaged⟩ := hstaged
      rw [ha, map_some, map_some, AccountRow.activate, if_pos hstaged]
    next => exact map_id'.symm
  next hstaged =>
    cases ha : r.accounts.get? node with
    | none => rfl
    | some a =>
      rw [map_some]
      split
      next hnode =>
        subst hnode
        rw [ha, Option.any_some] at hstaged
        rw [AccountRow.activate, if_neg hstaged]
      next => rfl

lemma get?_completeWorkflowTargetAccountProvision (workflowID : UUID) (accountVersion : ℕ)
    (now : Time) (r : Rows) (node : NodeID) :
    (completeWorkflowTargetAccountProvision workflowID accountVersion now r).accounts.get? node =
      (r.accounts.get? node).map fun a =>
        if (r.workflows.get? workflowID).any fun w =>
            w.live && w.targetNodeID = node && (r.accounts.get? node).any fun a =>
              a.status = .pending && a.accountVersion = accountVersion then
          { a with status := .active, provisioningWorkflowID := none, updatedAt := now }
        else a := by
  unfold completeWorkflowTargetAccountProvision
  split
  next hw =>
    rw [hw]
    exact map_id'.symm
  next w hw =>
    rw [hw, Option.any_some]
    by_cases hnode : w.targetNodeID = node
    · subst hnode
      simp only [decide_true, Bool.and_true, Bool.and_eq_true]
      split
      next => exact get?_modify_self _ _ _
      next => exact map_id'.symm
    · simp only [hnode, decide_false, Bool.and_false, Bool.false_and, Bool.false_eq_true, if_false]
      split
      next => exact (get?_modify_of_ne (Ne.symm hnode)).trans map_id'.symm
      next => exact map_id'.symm

lemma get?_record (r : Rows) (c : Command) (answer : Answer) (now : Time) (node : NodeID) :
    (r.record c answer now).accounts.get? node =
      (r.accounts.get? node).map (c.rewrite r answer now node) := by
  obtain ⟨target, handle, request⟩ := c
  cases request with
  | setPassword password =>
    obtain ⟨version, material⟩ := password
    cases material with
    | some material =>
      simp only [Rows.record, Command.rewrite]
      split
      next => exact get?_activateNodeAccount target node now r
      next =>
        exact get?_modify_eq_map ..
    | none => exact map_id'.symm
  | setOAuthIdentity provider subject present version =>
    simp only [Rows.record, Command.rewrite, Command.freezes]
    split
    next hconflict =>
      unfold freezeOAuthIdentitySyncConflict
      simp only [hconflict, decide_true, Bool.true_and, Bool.and_eq_true,
        decide_eq_true_eq]
      split
      next => exact get?_mapRows _ _ _
      next => exact map_id'.symm
    next hconflict =>
      simp only [hconflict, decide_false, Bool.false_and, Bool.false_eq_true, if_false]
      exact map_id'.symm
  | restoreUserAccount workflowID accountVersion password identity =>
    simp only [Rows.record, Command.rewrite, Command.provisions]
    split
    next hok =>
      simp only [hok, decide_true, Bool.true_and]
      exact get?_completeWorkflowTargetAccountProvision ..
    next hok =>
      simp only [hok, decide_false, Bool.false_and, Bool.false_eq_true, if_false]
      exact map_id'.symm

section

variable (r : Rows) (answer : Answer) (now : Time) (node : NodeID) (a : AccountRow)

inductive Command.Rewrites : Command → AccountRow → Prop
  | same (c) : Rewrites c a
  | activated {handle version material} : answer = .ok → a.staged →
    Rewrites ⟨node, handle, .setPassword ⟨version, some material⟩⟩
      { a with status := .active, updatedAt := now }
  | failed {handle version material} : answer ≠ .ok →
    Rewrites ⟨node, handle, .setPassword ⟨version, some material⟩⟩
      { a with status := .error, updatedAt := now }
  | frozen {c provider subject present version} (h : c.freezes r answer) : a.freezable →
    c.request = .setOAuthIdentity provider subject present version →
    Rewrites c { a with status := .conflict, updatedAt := now }
  | provisioned {c id version password identity} (h : c.provisions r answer node) :
    c.request = .restoreUserAccount id version password identity →
    Rewrites c { a with status := .active, provisioningWorkflowID := none, updatedAt := now }

lemma Command.rewrites (c : Command) :
    c.Rewrites r answer now node a (c.rewrite r answer now node a) := by
  obtain ⟨target, handle, request⟩ := c
  cases request with
  | setPassword password =>
    obtain ⟨version, _ | material⟩ := password
    · exact .same _
    simp only [Command.rewrite, AccountRow.activate]
    split_ifs with hnode hok hstaged
    · exact hnode ▸ .activated hok hstaged
    · exact .same _
    · exact hnode ▸ .failed hok
    · exact .same _
  | setOAuthIdentity provider subject present version =>
    simp only [Command.rewrite, AccountRow.freeze]
    split_ifs with hfreezes hfreezable
    · exact .frozen hfreezes hfreezable rfl
    all_goals exact .same _
  | restoreUserAccount id version password identity =>
    simp only [Command.rewrite]
    split_ifs with hprovisions
    · exact .provisioned hprovisions rfl
    · exact .same _

end

lemma of_get?_record {c : Command} {answer : Answer} {node : NodeID} {a' : AccountRow}
    (h : (r.record c answer now).accounts.get? node = some a') :
    ∃ a, r.accounts.get? node = some a ∧ c.Rewrites r answer now node a a' := by
  obtain ⟨a, ha, rfl⟩ := map_eq_some_iff.mp (get?_record .. ▸ h)
  exact ⟨a, ha, c.rewrites ..⟩

lemma record_frame (r : Rows) (c : Command) (answer : Answer) (now : Time) :
    (r.record c answer now).username = r.username ∧ (r.record c answer now).password = r.password ∧
      (r.record c answer now).oauth = r.oauth ∧ (r.record c answer now).workflows =
      r.workflows := by
  unfold Rows.record
  split
  · split
    · unfold activateNodeAccount
      split <;> exact ⟨rfl, rfl, rfl, rfl⟩
    · exact ⟨rfl, rfl, rfl, rfl⟩
  · exact ⟨rfl, rfl, rfl, rfl⟩
  · split
    · unfold freezeOAuthIdentitySyncConflict
      split <;> exact ⟨rfl, rfl, rfl, rfl⟩
    · exact ⟨rfl, rfl, rfl, rfl⟩
  · split
    · unfold completeWorkflowTargetAccountProvision
      split
      · exact ⟨rfl, rfl, rfl, rfl⟩
      · split <;> exact ⟨rfl, rfl, rfl, rfl⟩
    · exact ⟨rfl, rfl, rfl, rfl⟩

/-! ## What a step does -/

inductive Stepped (s : System) : Act → System → Prop
  | transact {t : Transaction} {known : LocalAccount} {handler : Option Material} {rows : Rows}
      (hhandler : nextHandler s.handler t = some handler) (hrows : s.rows.perform t = some rows) :
      Stepped s (.transact t known) { s with
        rows, handler
        nodes := importedNodes s.rows known s.nodes t, staged := nextStaged s.staged t }
  | send {sending : Sending} {c : Command} (hc : s.command sending = some c) :
      Stepped s (.send sending) { s with sent := c :: s.sent, waiting := c :: s.waiting }
  | execute {c : Command} (hc : c ∈ s.sent) : Stepped s (.execute c) (s.executed c)
  | finish {c : Command} {answer : Answer} {now : Time} (hc : c ∈ s.waiting)
      (hanswered : s.answered c answer) : Stepped s (.finish c answer now)
        { s with rows := s.rows.record c answer now, waiting := s.waiting.erase c }
  | releaseHandler : Stepped s .releaseHandler { s with handler := none }

lemma stepped_of_step {s s' : System} {act : Act} (h : step s act = some s') :
    Stepped s act s' := by
  cases act with
  | transact t known =>
    obtain ⟨handler, hhandler, h⟩ := bind_eq_some_iff.mp h
    obtain ⟨rows, hrows, ⟨⟩⟩ := bind_eq_some_iff.mp h
    exact .transact hhandler hrows
  | send sending =>
    obtain ⟨c, hc, rfl⟩ := map_eq_some_iff.mp h
    exact .send hc
  | execute c =>
    obtain ⟨hc, rfl⟩ := of_guarded h
    exact .execute hc
  | finish c answer now =>
    obtain ⟨⟨hc, hanswered⟩, rfl⟩ := of_guarded h
    exact .finish hc hanswered
  | releaseHandler =>
    cases h
    exact .releaseHandler

end StControl.Convergence
