import StControl.Controller.LoginHandler
import StControl.Controller.Reconcilers
import StControl.Store.Writes

/-!
# Which directory a data command names

A node keeps the data of a user in the directory of a local account, and `node_accounts` records
under which handle the user's account is registered there.  The commands that move the data of a
user carry a handle: a snapshot names the directory that the source reads and the target writes, a
restore the one that the target replaces, a clean-up the one that is deleted.

All of them take the handle from `users.username`.  The two agree as long as every account is
registered under the name of the user, which is what registrations and provisioned accounts do; but
an account that an import links by an OAuth identity keeps the handle that it has on its node.  Once
such a node is the home, its snapshots read the directory of whoever is called like the user there
(`import_misdirects_snapshot`).  The resolution of a conflict, by contrast, looks the handle of its
base up in `node_accounts`.
-/

namespace StControl.Controller

open Store Run Transaction Option Table List

variable {f : NodeAccount → NodeAccount} {node : NodeID} {account : NodeAccount} {handle : String}

/-! ## The commands -/

inductive DataCommandType
  | prepareSnapshotReceive | startSnapshot | startRestoreTransfer | deleteSnapshotReplica
  deriving DecidableEq

structure DataCommand where
  node : NodeID
  commandType : DataCommandType
  handle : String
  deriving DecidableEq

/-- The fields of `SnapshotWorkflowExecution` and `RestoreWorkflowExecution` that say where the
commands go and what they name. -/
structure TransferExecution where
  handle : String
  (sourceNodeID targetNodeID : NodeID)
  deriving DecidableEq

section

variable (db : Db)

/-- `GetSnapshotWorkflowExecution` and `GetRestoreWorkflowExecution`: the handle is the name of the
user. -/
def getTransferExecution (workflowID : UUID) (type : WorkflowType) :
    Option TransferExecution := do
  let w ← db.workflows.get? workflowID
  let _ ← workflowSnapshot db workflowID
  let _ ← executionJob db workflowID w.workflowType
  if w.workflowType = type ∧ w.state.live then
    some
      { handle := db.user.username, sourceNodeID := w.sourceNodeID, targetNodeID := w.targetNodeID }
  else none

def sendsCommands (state : WorkflowState) : Bool :=
  state ≠ .retryWait && state ≠ .publishing

def targetAccountActive (target : NodeID) : Bool :=
  (db.nodes.get? target).any fun n => n.role = .storage || db.accountActive target

/-- The commands of `executeSnapshotWorkflow` once both nodes are ready and the account on the
target is active. `start_relay_receive`, which follows them over the relay, names no handle. -/
def snapshotCommands (workflowID : UUID) : List DataCommand :=
  match getTransferExecution db workflowID .snapshot, db.workflows.get? workflowID with
  | some execution, some w =>
    if (db.nodes.get? w.targetNodeID).any snapshotNodeReady ∧
        (db.nodes.get? w.sourceNodeID).any (snapshotSourceReady · w.mode) ∧
        targetAccountActive db w.targetNodeID ∧ sendsCommands w.state ∧
        w.errorCode ≠ some .controllerGenerationRecovery then
      [⟨execution.targetNodeID, .prepareSnapshotReceive, execution.handle⟩,
        ⟨execution.sourceNodeID, .startSnapshot, execution.handle⟩]
    else []
  | _, _ => []

/-- The commands of `executeRestoreWorkflow`. -/
def restoreCommands (workflowID : UUID) : List DataCommand :=
  match getTransferExecution db workflowID .restore, db.workflows.get? workflowID with
  | some execution, some w =>
    if (db.nodes.get? w.sourceNodeID).any (fun n => n.role = .storage) ∧
        (db.nodes.get? w.targetNodeID).any (fun n => n.role = .compute && n.transferURL ≠ "") ∧
        targetAccountActive db w.targetNodeID ∧ sendsCommands w.state then
      [⟨execution.targetNodeID, .prepareSnapshotReceive, execution.handle⟩,
        ⟨execution.sourceNodeID, .startRestoreTransfer, execution.handle⟩]
    else []
  | _, _ => []

/-- The command of `executeReplicaCleanupTask`.  The task has the name of the user from the time
when it was scheduled; the name does not change. -/
def cleanupCommands (taskID : UUID) : List DataCommand :=
  match db.cleanups.get? taskID with
  | none => []
  | some task =>
    if task.state = .running ∧
        (db.nodes.get? task.nodeID).any (fun n => nodeReadyForManagedOperation n &&
          (task.replicaKind ≠ .archive || n.role = .storage) &&
          (task.replicaKind ≠ .hotStandby || n.role = .compute)) then
      [⟨task.nodeID, .deleteSnapshotReplica, db.user.username⟩]
    else []

def Issued (command : DataCommand) : Prop :=
  ∃ id, command ∈ snapshotCommands db id ∨ command ∈ restoreCommands db id ∨
    command ∈ cleanupCommands db id

end

abbrev DataCommand.AddressesOwn (command : DataCommand) (db : Db) : Prop :=
  ∀ account, db.accounts.get? command.node = some account → command.handle = account.localHandle

lemma handle_of_getTransferExecution {db : Db} {workflowID : UUID} {type : WorkflowType}
    {execution : TransferExecution} (h : getTransferExecution db workflowID type = some execution) :
    execution.handle = db.user.username := by
  simp only [getTransferExecution, bind_eq_bind, bind_eq_some_iff] at h
  obtain ⟨w, -, -, -, -, -, h⟩ := h
  split at h
  · cases h
    rfl
  · cases h

lemma Issued.handle_eq {db : Db} {command : DataCommand} (h : Issued db command) :
    command.handle = db.user.username := by
  obtain ⟨id, h | h | h⟩ := h
  · unfold snapshotCommands at h
    split at h
    next execution w hexecution _ =>
      have hhandle := handle_of_getTransferExecution hexecution
      split at h
      · simp only [mem_cons, not_mem_nil, or_false] at h
        rcases h with rfl | rfl <;> exact hhandle
      · exact absurd h not_mem_nil
    next => exact absurd h not_mem_nil
  · unfold restoreCommands at h
    split at h
    next execution w hexecution _ =>
      have hhandle := handle_of_getTransferExecution hexecution
      split at h
      · simp only [mem_cons, not_mem_nil, or_false] at h
        rcases h with rfl | rfl <;> exact hhandle
      · exact absurd h not_mem_nil
    next => exact absurd h not_mem_nil
  · unfold cleanupCommands at h
    split at h
    next => exact absurd h not_mem_nil
    next task _ =>
      split at h
      · rw [mem_singleton.mp h]
      · exact absurd h not_mem_nil

/-! ## Under which handles accounts are registered -/

/-- No account gets another handle than `name`. -/
abbrev HandlesKept (name : String) (t t' : Table NodeID NodeAccount) : Prop :=
  NoNew (fun _ a => a.localHandle ≠ name) t t'

lemma switchAccounts_handlesKept (name : String) (t : Table NodeID NodeAccount)
    (source target : NodeID) : HandlesKept name t (switchAccounts t source target) := by
  refine NoNew.trans (.modify ?_) (.modify ?_) <;> exact fun _ => id

lemma resolvedAccounts_handlesKept (name : String) (t : Table NodeID NodeAccount)
    (base : NodeID) : HandlesKept name t (resolvedAccounts t base) := by
  refine .mapRows fun node a => ?_
  split <;> exact id

variable {db : Db} {nodeID : NodeID} {now : Time}

lemma prepareWorkflowTargetAccount_handlesKept {target : NodeID}
    {accounts : Table NodeID NodeAccount}
    (h : prepareWorkflowTargetAccount db target = .ok accounts) :
    HandlesKept db.user.username db.accounts accounts := by
  unfold prepareWorkflowTargetAccount at h
  split at h
  · cases h
    exact .refl _
  · simp only [require_bind_eq_ok, pure_eq_ok] at h
    obtain ⟨-, -, rfl⟩ := h
    refine .put fun hname => absurd ?_ hname
    cases db.accounts.get? target <;> rfl

def registersOwnName (db : Db) : Act → Bool
  | .linkImportCandidate nodeID handle _ _ =>
    (db.accounts.get? nodeID).isSome || handle = db.user.username
  | .completeAccountImportClaim _ handle _ => handle = db.user.username
  | .environment (.account _ row) => row.localHandle = db.user.username
  | _ => true

structure NamesKept (db db' : Db) : Prop where
  username : db'.user.username = db.user.username
  handles : HandlesKept db.user.username db.accounts db'.accounts

lemma NamesKept.refl (db : Db) : NamesKept db db := ⟨rfl, .refl _⟩

lemma linkAccount_namesKept {home : NodeID} (hhandle : account.localHandle ≠ db.user.username →
      ∃ a, db.accounts.get? nodeID = some a ∧ a.localHandle ≠ db.user.username) :
    NamesKept db (linkAccount nodeID home account now db) :=
  ⟨rfl, .put hhandle⟩

lemma freezeImportedReplicas_namesKept (home : NodeID) (now : Time) (db : Db) :
    NamesKept db (freezeImportedReplicas home now db) := by
  unfold freezeImportedReplicas
  refine ⟨rfl, ?_⟩
  exact .update fun _ _ _ => id

lemma NamesKept.trans {db' db'' : Db} (h : NamesKept db db') (h' : NamesKept db' db'') :
    NamesKept db db'' :=
  ⟨h'.username.trans h.username, h.handles.trans (h.username ▸ h'.handles)⟩

lemma linkImportCandidate_namesKept {relink : Bool}
    (hmeets : registersOwnName db (.linkImportCandidate nodeID handle relink now)) :
    Ensures (linkImportCandidate nodeID handle relink now db) (NamesKept db) := by
  have hlinked : ∀ home, NamesKept db (linkAccount nodeID home ((db.accounts.get? nodeID).getD
      { localHandle := handle, status := .active, accountVersion := 1
        hasPasswordMaterial := false }) now db) := by
    refine fun home => linkAccount_namesKept fun hname => ?_
    cases haccount : db.accounts.get? nodeID with
    | none =>
      simp only [registersOwnName, haccount, isSome_none, Bool.false_or,
        decide_eq_true_eq] at hmeets
      exact absurd hmeets (by rwa [haccount] at hname)
    | some a => exact ⟨a, rfl, by rwa [haccount] at hname⟩
  simp only [linkImportCandidate, ensures_steps, ensures_ite]
  rintro - -
  exact ⟨fun _ _ => (hlinked _).trans (freezeImportedReplicas_namesKept ..), fun _ => hlinked _⟩

lemma completeAccountImportClaim_namesKept
    (hmeets : registersOwnName db (.completeAccountImportClaim nodeID handle now)) :
    Ensures (completeAccountImportClaim nodeID handle now db) (NamesKept db) := by
  have hhandle : handle = db.user.username := by
    simpa only [registersOwnName, decide_eq_true_eq] using hmeets
  simp only [completeAccountImportClaim, ensures_require_bind]
  intro _ _
  split
  · exact ensures_pure.mpr (linkAccount_namesKept (absurd hhandle ·))
  · exact ensures_pure.mpr ⟨rfl, .put (absurd hhandle ·)⟩

lemma transaction_namesKept {act : Act} (hmeets : registersOwnName db act) :
    Ensures (act.transaction db) (NamesKept db) := by
  have hrefl := NamesKept.refl db
  have hsame := NoNew.refl (P := fun _ a => a.localHandle ≠ db.user.username) db.accounts
  by_cases hwrites : act.writesAccounts = false
  · exact tables_kept.mono fun _ hkept => ⟨hkept.username, hkept.accounts hwrites ▸ hsame⟩
  cases act with
  | linkImportCandidate => exact linkImportCandidate_namesKept hmeets
  | completeAccountImportClaim => exact completeAccountImportClaim_namesKept hmeets
  | environment w =>
    cases w with
    | account node row =>
      have hname : row.localHandle = db.user.username := by
        simpa only [registersOwnName, decide_eq_true_eq] using hmeets
      exact ensures_ok.mpr ⟨rfl, .put (absurd hname ·)⟩
    | _ => exact absurd rfl hwrites
  | confirmReplicaTakeover p =>
    refine confirmReplicaTakeover_commit.mono ?_
    rintro db' (rfl | ⟨_, _, _, -, rfl⟩)
    · exact hrefl
    · exact ⟨rfl, switchAccounts_handlesKept _ _ _ _⟩
  | createSnapshotWorkflow p =>
    refine createSnapshotWorkflow_commit.mono ?_
    rintro db' ⟨_, accounts, hcommit, rfl⟩
    refine ⟨rfl, ?_⟩
    rcases hcommit.accounts with hkept | hprepared
    · exact hkept ▸ hsame
    · exact prepareWorkflowTargetAccount_handlesKept hprepared
  | createRestoreWorkflow p =>
    refine createRestoreWorkflow_commit.mono ?_
    rintro db' (rfl | ⟨_, _, _, _, _, hcreation, rfl⟩)
    · exact hrefl
    · exact ⟨rfl, prepareWorkflowTargetAccount_handlesKept hcreation.prepared⟩
  | completeRestoreWorkflow p =>
    refine completeRestoreWorkflow_commit.mono ?_
    rintro db' (⟨rfl, -⟩ | ⟨_, _, _, _, -, rfl⟩)
    · exact hrefl
    · exact ⟨rfl, switchAccounts_handlesKept _ _ _ _⟩
  | completeNodeRetirementHomeMigration =>
    refine completeNodeRetirementHomeMigration_commit.mono ?_
    rintro db' (⟨rfl, -⟩ | ⟨_, _, _, _, -, rfl⟩)
    · exact hrefl
    · exact ⟨rfl, switchAccounts_handlesKept _ _ _ _⟩
  | completeConflictResolution p =>
    refine completeConflictResolution_commit.mono ?_
    rintro db' (rfl | ⟨w, _, -, rfl⟩)
    · exact hrefl
    · exact ⟨rfl, resolvedAccounts_handlesKept _ _ _⟩
  | failRestoreWorkflow | completeNodeRetirementReplicaItem =>
    simp only [Act.transaction, failRestoreWorkflow, completeNodeRetirementReplicaItem, ensures_ite,
      ensures_steps]
    repeat' first
      | trivial
      | exact hrefl
      | exact ⟨rfl, hsame⟩
      | exact .update fun _ _ _ => id
      | exact .modify fun _ => id
      | simp only [ensures_steps]
      | split
      | intro _
      | constructor
  | _ => exact absurd rfl hwrites

/-! ## Whole runs -/

abbrev OwnNames (db : Db) : Prop :=
  ∀ node account, db.accounts.get? node = some account → account.localHandle = db.user.username

lemma step_ownNames {db' : Db} {act : Act} (h : OwnNames db)
    (hmeets : registersOwnName db act) (hstep : step db act = some db') : OwnNames db' := by
  have hkept : NamesKept db db' := (transaction_namesKept hmeets) db' (step_eq_some.mp hstep)
  intro node a' ha'
  rw [hkept.username]
  by_contra hname
  obtain ⟨a, ha, hother⟩ := hkept.handles node a' ha' hname
  exact hother (h node a ha)

/-- **When data commands address the user's own directory.**  In a run that starts with accounts
under the user's name, and whose steps register accounts under that name only, every command that is
issued names the user's own directory.  In any state a command does so exactly if the account on its
node, if there is one, has the name of the user. -/
theorem data_commands_own_directory {db₀ db : Db} {acts : List Act} (hstart : OwnNames db₀)
    (hrun : run step db₀ acts = some db) :
    (Meets step (fun db act => registersOwnName db act = true) db₀ acts →
      ∀ command, Issued db command → command.AddressesOwn db) ∧
    ∀ command, Issued db command → (command.AddressesOwn db ↔
      ∀ account, db.accounts.get? command.node = some account →
        account.localHandle = db.user.username) := by
  refine ⟨fun hmeets command hissued account haccount => ?_, fun command hissued => ?_⟩
  · have hnames : OwnNames db :=
      run_invariant_of_meets (fun _ _ _ h => step_ownNames h) hstart hmeets hrun
    rw [hissued.handle_eq, hnames command.node account haccount]
  · unfold DataCommand.AddressesOwn
    rw [hissued.handle_eq]
    exact ⟨fun h account haccount => (h account haccount).symm,
      fun h account haccount => (h account haccount).symm⟩

def homeBackup (home : NodeID) : List Act :=
  [ .environment (.job 50
      { srcNodeID := home, dstNodeID := 3, status := .pending, workflowID := none }),
    .createSnapshotWorkflow
      { workflowID := 50, operationID := 50, snapshotID := 50, capabilityID := 50
        capabilityHash := 50, capabilityExpires := 300, sourceNodeID := home, targetNodeID := 3
        destinationKind := .archive, relay := false, request := .ordinary 50, now := 200 },
    .startSnapshotWorkflow 50 ]

def backupDb : Db := (run step sampleDb (homeBackup 1)).getD sampleDb

lemma sampleDb_ownNames : OwnNames sampleDb := by decide +kernel

theorem data_commands_own_directory_backup : run step sampleDb (homeBackup 1) = some backupDb ∧
      Issued backupDb ⟨1, .startSnapshot, "user"⟩ ∧
      DataCommand.AddressesOwn ⟨1, .startSnapshot, "user"⟩ backupDb := by
  have hrun : run step sampleDb (homeBackup 1) = some backupDb := rfl
  have hissued : Issued backupDb ⟨1, .startSnapshot, "user"⟩ := ⟨50, .inl (by decide +kernel)⟩
  exact ⟨hrun, hissued, (data_commands_own_directory sampleDb_ownNames hrun).1
    (by decide +kernel) _ hissued⟩

/-- The user, registered on node `1`, signs in with an identity that an account of node `2` has,
whose handle is another.  Both accounts have data, and the user keeps that of node `2`, which
becomes the home. -/
def foreignHandleRun : List Act :=
  .linkImportCandidate 2 "other" false 100 :: sampleResolution 2 1 110 ++
    [.completeConflictResolution (sampleResolved 150)]

def foreignHandleDb : Db := (run step sampleDb (foreignHandleRun ++ homeBackup 2)).getD sampleDb

/-- **An import misdirects the backup.**  The account on node `2` is registered as `other`; the
source of the snapshot is told to read the directory `user`. -/
theorem import_misdirects_snapshot :
    OwnNames sampleDb ∧ run step sampleDb (foreignHandleRun ++ homeBackup 2) =
    some foreignHandleDb ∧
      Issued foreignHandleDb ⟨2, .startSnapshot, "user"⟩ ∧
      (foreignHandleDb.accounts.get? 2).map (fun a => (a.localHandle, a.status)) =
        some ("other", .active) ∧
      ¬ DataCommand.AddressesOwn ⟨2, .startSnapshot, "user"⟩ foreignHandleDb := by
  exact ⟨sampleDb_ownNames, rfl, ⟨50, .inl (by decide +kernel)⟩, by decide +kernel,
    by decide +kernel⟩

end StControl.Controller
