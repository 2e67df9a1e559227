import StControl.Convergence.System

/-!
# Accounts that wait

An account that is pending or in error is out of use until a password has been delivered to it.  It
is in the hands of the workflow that provisions it, or else the reconciler must find it: it lists
the accounts that have a password to deliver (`ListPendingPasswordSyncs`), and a delivery that
succeeds makes the account active.

The row of an account says all that is needed for this, and `AccountRow.Attended` is the invariant:
an account that names a workflow is pending while that workflow is live, or is stale; one that names
none and waits has a password.  The transactions of the identities do not keep it.  When the
password is unbound, it is taken from every account, also from one that waits for it, and the
delivery of the removal leaves the status as it is: the account waits for good
(`unbound_password_strands_account`). A snapshot that ends without having provisioned its target, a
restore without a password that fails, and a delivery or a freeze that meets an account in the hands
of a workflow break it as well. `waiting_accounts_recoverable` says that there are no other ways.
-/

namespace StControl.Convergence

open Store (NodeID UUID Time WorkflowType)
open Run Option Table

/-! ## Accounts in the hands of somebody -/

def AccountRow.owned (workflows : Table UUID TransferWorkflow) (a : AccountRow) : Bool :=
  a.provisioningWorkflowID.any fun id => (workflows.get? id).any fun w => w.live

def AccountRow.waits (a : AccountRow) : Bool := a.status = .pending || a.status = .error

/-- The reconciler selects the account once its node is online and the back-off is over, and the
delivery of what the row then holds makes the account active. -/
def Rows.Recoverable (r : Rows) (node : NodeID) (a : AccountRow) : Prop :=
  (∀ online now, online node → a.updatedAt ≤ now - passwordSyncBackoff →
    dueForPasswordSync r online now node) ∧
  ∃ material, a.passwordMaterial = some material ∧ ∀ now,
    ((r.record ⟨node, a.localHandle, .setPassword ⟨a.passwordMaterialVersion, some material⟩⟩ .ok
      now).accounts.get? node).map (·.status) = some .active

structure AccountRow.Attended (workflows : Table UUID TransferWorkflow) (node : NodeID)
    (a : AccountRow) : Prop where
  provisioned : ∀ id, a.provisioningWorkflowID = some id → a.status = .stale ∨
    a.status = .pending ∧ ∃ w, workflows.get? id = some w ∧ w.live ∧ w.targetNodeID = node
  staged : a.provisioningWorkflowID = none → a.waits → a.passwordMaterial.isSome

def Rows.Attended (r : Rows) : Prop :=
  ∀ node a, r.accounts.get? node = some a → a.Attended r.workflows node

def Rows.provisioning (r : Rows) : Bool :=
  r.accounts.any fun _ a => a.provisioningWorkflowID.isSome

def keepsAttended (s : System) : Act → Bool
  | .transact (.unbindPassword _) _ => !s.rows.incomplete
  | .transact (.endSnapshotWorkflow workflowID) _ =>
    s.rows.accounts.all fun _ a =>
      a.provisioningWorkflowID ≠ some workflowID || a.status ≠ .pending
  | .transact (.failRestoreWorkflow workflowID _) _ =>
    (s.rows.workflows.get? workflowID).all fun w =>
    (s.rows.accounts.get? w.targetNodeID).all fun a =>
      a.status ≠ .pending || a.passwordMaterial.isSome
  | .transact (.linkImportCandidate node _ _ otherReplicas _) _ =>
    !s.rows.otherData node otherReplicas || !s.rows.provisioning
  | .finish ⟨node, handle, request⟩ answer _ =>
    match request with
    | .setPassword ⟨_, some _⟩ =>
      (s.rows.accounts.get? node).all fun a =>
        a.provisioningWorkflowID.isNone && (answer = .ok || a.passwordMaterial.isSome)
    | _ => !Command.freezes s.rows ⟨node, handle, request⟩ answer || !s.rows.provisioning
  | _ => true

/-! ## Rows -/

section Rows

variable {workflows workflows' : Table UUID TransferWorkflow} {node : NodeID} {a : AccountRow}

lemma attended_of_none (hnone : a.provisioningWorkflowID = none)
    (hstaged : a.waits → a.passwordMaterial.isSome) : a.Attended workflows node := by
  refine ⟨fun id hid => ?_, fun _ => hstaged⟩
  cases hnone.symm.trans hid

lemma attended_of_quiet (hnone : a.provisioningWorkflowID = none) (hquiet : a.waits = false) :
    a.Attended workflows node :=
  attended_of_none hnone fun hwaits => Bool.noConfusion (hquiet.symm.trans hwaits)

lemma attended_of_stale (hstale : a.status = .stale) : a.Attended workflows node :=
  ⟨fun _ _ => .inl hstale, fun _ hwaits => by simp [AccountRow.waits, hstale] at hwaits⟩

section

variable (h : a.Attended workflows node)
include h

namespace AccountRow.Attended

lemma none_of_status (hpending : a.status ≠ .pending)
    (hstale : a.status ≠ .stale) : a.provisioningWorkflowID = none := by
  cases hid : a.provisioningWorkflowID with
  | none => rfl
  | some id =>
    rcases h.provisioned id hid with hs | hp
    · exact absurd hs hstale
    · exact absurd hp.1 hpending

lemma target {id : UUID} {w : TransferWorkflow} (hid : a.provisioningWorkflowID = some id)
    (hpending : a.status = .pending) (hw : workflows.get? id = some w) : node = w.targetNodeID := by
  rcases h.provisioned id hid with hs | ⟨-, w', hw', -, htarget⟩
  · cases hpending.symm.trans hs
  · rw [hw, some.injEq] at hw'
    exact hw' ▸ htarget.symm

lemma of_workflows (hkept : ∀ id w, a.provisioningWorkflowID = some id → a.status = .pending →
      workflows.get? id = some w → workflows'.get? id = some w) : a.Attended workflows' node := by
  refine ⟨fun id hid => ?_, h.staged⟩
  rcases h.provisioned id hid with hs | ⟨hpending, w, hw, hlive⟩
  · exact .inl hs
  · exact .inr ⟨hpending, w, hkept id w hid hpending hw, hlive⟩

end AccountRow.Attended

end

lemma AccountRow.Attended.recoverable {r : Rows} (h : a.Attended r.workflows node)
    (ha : r.accounts.get? node = some a) (hactive : r.globalStatus = .active)
    (hwaits : a.waits) (howned : a.owned r.workflows = false) : r.Recoverable node a := by
  have hnone : a.provisioningWorkflowID = none := by
    cases hid : a.provisioningWorkflowID with
    | none => rfl
    | some id =>
      rcases h.provisioned id hid with hs | ⟨-, w, hw, hlive, -⟩
      · simp [AccountRow.waits, hs] at hwaits
      · simp [AccountRow.owned, hid, hw, hlive] at howned
  obtain ⟨material, hmaterial⟩ := isSome_iff_exists.mp (h.staged hnone hwaits)
  have hwaits' : (a.status = .pending || a.status = .error) := hwaits
  refine ⟨fun online now honline hdue => ?_, material, hmaterial, fun now => ?_⟩
  · simp only [dueForPasswordSync, ha, hactive, AccountRow.pendingPasswordSync,
      AccountRow.unconverged, hnone, hmaterial, hwaits', honline, hdue, Option.any_some,
      decide_true, isNone_none, isSome_some, Bool.and_self]
  · have hstaged : a.staged := by
      rw [AccountRow.staged, Bool.or_assoc, hwaits', Bool.or_true]
    rw [get?_record, ha]
    simp only [Command.rewrite, if_true, AccountRow.activate, hstaged, map_some]

end Rows

/-! ## Transactions -/

variable {r r' : Rows} {t : Transaction} {node : NodeID} {a : AccountRow} {s : System}

lemma written_attended (h : r.perform t = some r') (hwritten : t.written r = some (node, a)) :
    a.Attended r'.workflows node := by
  cases t with
  | createTransfer workflowID workflowType target now =>
    simp only [Transaction.written, ite_none_left_eq_some, some.injEq, Prod.mk.injEq] at hwritten
    obtain ⟨-, rfl, rfl⟩ := hwritten
    simp only [Rows.perform, createTransfer, ite_none_right_eq_some, map_eq_some_iff] at h
    obtain ⟨-, rows, -, rfl⟩ := h
    refine ⟨fun id hid => .inr ⟨rfl, ?_⟩, fun hnone => by cases hnone⟩
    cases hid
    exact ⟨_, get?_put_self .., rfl, rfl⟩
  | linkImportCandidate =>
    obtain ⟨-, rfl, rfl⟩ := of_guarded hwritten
    exact attended_of_quiet rfl rfl
  | completeAccountImportClaim =>
    obtain ⟨rfl, rfl⟩ := hwritten
    exact attended_of_quiet rfl rfl
  | _ => cases hwritten

lemma Rows.Attended.before (hr : r.Attended) (h : r.perform t = some r') (hends : t.ends = none)
    (ha : t.accountBefore r node = some a) : a.Attended r'.workflows node := by
  have hkept : r.accounts.get? node = some a → a.Attended r'.workflows node := fun ha =>
    (hr node a ha).of_workflows fun id w _ _ hw =>
      workflow_kept h (by rw [hends]; nofun) hw
  unfold Transaction.accountBefore at ha
  split at ha
  next n written hwritten =>
    split at ha
    next hnode =>
      cases ha
      exact hnode ▸ written_attended h hwritten
    next => exact hkept ha
  next => exact hkept ha

lemma Transaction.Rewrites.attended {workflows : Table UUID TransferWorkflow} {a' : AccountRow}
    (h : t.Rewrites r node a a') (hattended : a.Attended workflows node)
    (hfails : ∀ workflowID now, t ≠ .failRestoreWorkflow workflowID now)
    (hdrop : ∀ now, t = .unbindPassword now → a.unconverged = false)
    (hfreeze : ∀ imported handle relink otherReplicas now,
      t = .linkImportCandidate imported handle relink otherReplicas now →
      r.otherData imported otherReplicas → a.provisioningWorkflowID = none)
    (hswitch : t.switches r = some node → a.status = .active) : a'.Attended workflows node := by
  cases h with
  | same | unstaged => exact hattended
  | staged _ _ staged =>
    refine ⟨fun id hid => ?_, fun _ _ => rfl⟩
    rcases hattended.provisioned id hid with hs | ⟨-, hlive⟩
    · simp [AccountRow.staged, hs] at staged
    · exact .inr ⟨rfl, hlive⟩
  | dropped unbinds =>
    refine ⟨hattended.provisioned, fun hnone hwaits => ?_⟩
    have hnone : a.provisioningWorkflowID = none := hnone
    have hwaits : a.waits := hwaits
    have hconverged := hdrop _ unbinds
    rw [AccountRow.unconverged, hnone] at hconverged
    rw [AccountRow.waits] at hwaits
    rw [hwaits] at hconverged
    cases hconverged
  | identity => exact ⟨hattended.provisioned, hattended.staged⟩
  | givenUp fails => exact absurd fails (hfails _ _)
  | activated _ was =>
    have hnone : a.provisioningWorkflowID = none := by
      rcases was.imp_right hswitch with hstatus | hstatus <;>
        exact hattended.none_of_status (by rw [hstatus]; nofun) (by rw [hstatus]; nofun)
    exact attended_of_quiet hnone rfl
  | superseded => exact attended_of_stale rfl
  | frozen links other =>
    exact attended_of_quiet (hfreeze _ _ _ _ _ links other) rfl

lemma provisioning_eq_false (h : r.provisioning = false)
    (ha : r.accounts.get? node = some a) : a.provisioningWorkflowID = none := by
  have hnone := Table.any_eq_false.mp h node a ha
  rwa [isSome_eq_false_iff, isNone_iff_eq_none] at hnone

lemma Rows.Attended.perform {known : LocalAccount}
    (hr : s.rows.Attended) (h : s.rows.perform t = some r')
    (hkeeps : keepsAttended s (.transact t known)) : r'.Attended := by
  intro node a' ha'
  rw [get?_perform h] at ha'
  obtain ⟨a, ha, rfl⟩ := map_eq_some_iff.mp ha'
  have hrewrites := t.rewrites s.rows node a
  cases hends : t.ends with
  | none =>
    refine hrewrites.attended (hr.before h hends ha) ?_ ?_ ?_ fun hswitches => ?_
    · rintro workflowID now rfl
      cases hends
    · rintro now rfl
      have hconverged : s.rows.incomplete = false := by simpa [keepsAttended] using hkeeps
      exact Table.any_eq_false.mp hconverged node a ha
    · rintro imported handle relink otherReplicas now rfl hother
      have hnone : s.rows.provisioning = false := by simpa [keepsAttended, hother] using hkeeps
      simp only [Transaction.accountBefore, Transaction.written] at ha
      split at ha
      next n written hwritten =>
        obtain ⟨-, rfl, rfl⟩ := of_guarded hwritten
        split at ha
        · cases ha
          rfl
        · exact provisioning_eq_false hnone ha
      next => exact provisioning_eq_false hnone ha
    · refine active_of_switches h hswitches ?_
      cases t <;> first | exact ha | cases hswitches
  | some workflowID =>
    -- Only a pending account that names the workflow loses by its end.
    have hkept {id w} (hid : a.provisioningWorkflowID = some id) (hne : id ≠ workflowID)
        (hw : s.rows.workflows.get? id = some w) : r'.workflows.get? id = some w := by
      refine workflow_kept h ?_ hw
      rw [hends]
      exact fun heq => hne (some.inj heq).symm
    cases t with
    | endSnapshotWorkflow =>
      cases hends
      refine (hr node a ha).of_workflows fun id w hid hpending hw => hkept hid ?_ hw
      rintro rfl
      simp only [keepsAttended] at hkeeps
      simpa [hid, hpending] using Table.all_eq_true.mp hkeeps node a ha
    | failRestoreWorkflow _ now =>
      cases hends
      have ha : s.rows.accounts.get? node = some a := ha
      obtain ⟨w, hw⟩ := exists_failRestoreWorkflow h
      simp only [Transaction.rewrite, hw, Option.any_some, decide_eq_true_eq]
      by_cases hnode : node = w.targetNodeID
      · rw [if_pos hnode, AccountRow.giveUp]
        split
        next hpending =>
          refine attended_of_none rfl fun _ => ?_
          simpa [keepsAttended, hw, ← hnode, ha, hpending] using hkeeps
        next hpending =>
          exact (hr node a ha).of_workflows fun id w hid hp _ => absurd hp hpending
      · rw [if_neg hnode]
        refine (hr node a ha).of_workflows fun id w' hid hpending hw' => hkept hid ?_ hw'
        rintro rfl
        exact hnode ((hr node a ha).target hid hpending hw)
    | completeRestoreWorkflow _ source now =>
      cases hends
      have hactive hswitches := active_of_switches h hswitches ha
      refine hrewrites.attended ((hr node a ha).of_workflows fun id w hid hpending hw =>
        hkept hid ?_ hw)
        (by simp) (by simp) (by simp) hactive
      rintro rfl
      have htarget := (hr node a ha).target hid hpending hw
      have hstatus := hactive (by rw [Transaction.switches, hw, htarget]; rfl)
      cases hpending.symm.trans hstatus
    | _ => cases hends

/-! ## Whole runs -/

lemma workflows_record (r : Rows) (c : Command) (answer : Answer) (now : Time) :
    (r.record c answer now).workflows = r.workflows :=
  (record_frame r c answer now).2.2.2

lemma Rows.Attended.record {c : Command} {answer : Answer} {now : Time} (hr : s.rows.Attended)
    (hkeeps : keepsAttended s (.finish c answer now)) : (s.rows.record c answer now).Attended := by
  intro node a' ha'
  obtain ⟨a, ha, hrewrites⟩ := of_get?_record ha'
  rw [workflows_record]
  have hattended := hr node a ha
  cases hrewrites with
  | same => exact hattended
  | activated =>
    simp only [keepsAttended, ha, Option.all_some, Bool.and_eq_true, isNone_iff_eq_none] at hkeeps
    exact attended_of_quiet hkeeps.1 rfl
  | failed hfailed =>
    simp only [keepsAttended, ha, Option.all_some, Bool.and_eq_true, Bool.or_eq_true,
      decide_eq_true_eq, isNone_iff_eq_none] at hkeeps
    exact attended_of_none hkeeps.1 fun _ => hkeeps.2.resolve_left hfailed
  | frozen hfreezes _ hrequest =>
    have hnone : s.rows.provisioning = false := by
      obtain ⟨target, handle, request⟩ := c
      cases hrequest
      simpa [keepsAttended, hfreezes] using hkeeps
    have hfree := provisioning_eq_false hnone ha
    exact attended_of_quiet hfree rfl
  | provisioned => exact attended_of_quiet rfl rfl

lemma step_attended {s' : System} {act : Act} (hs : s.rows.Attended)
    (hkeeps : keepsAttended s act) (h : step s act = some s') : s'.rows.Attended := by
  cases stepped_of_step h with
  | transact _ hrows => exact hs.perform hrows hkeeps
  | finish => exact hs.record hkeeps
  | _ => exact hs

lemma registered_attended (username : String) (home : NodeID) (credential : Credential)
    (now : Time) : (registered username home credential now).rows.Attended := by
  intro node a ha
  obtain ⟨-, rfl⟩ := of_get?_registeredRows ha
  exact attended_of_quiet rfl rfl

/-- **Accounts that wait can be recovered.**  In a run whose steps all leave the accounts attended
to, every account of an active user that is pending or in error, and that no live workflow
provisions, is selected by the reconciler once its node is online, and a delivery makes it active.
-/
theorem waiting_accounts_recoverable {username : String} {home : NodeID} {credential : Credential}
    {start : Time} {acts : List Act} {s : System}
    (hrun : run step (registered username home credential start) acts = some s)
    (hmeets : Meets step (fun s act => keepsAttended s act = true)
      (registered username home credential start) acts)
    {node : NodeID} {a : AccountRow} (ha : s.rows.accounts.get? node = some a)
    (hactive : s.rows.globalStatus = .active) (hwaits : a.waits = true)
    (howned : a.owned s.rows.workflows = false) : s.rows.Recoverable node a := by
  have hattended : s.rows.Attended :=
    run_invariant_of_meets (P := fun s => s.rows.Attended)
      (fun s act s' hs hkeeps h => step_attended hs hkeeps h)
      (registered_attended username home credential start) hmeets hrun
  exact (hattended node a ha).recoverable ha hactive hwaits howned

/-! ## A password that is unbound while it is awaited -/

/-- A user who registers with a password and binds an OAuth identity, then changes the password
while the node is offline. -/
def passwordAwaited : List Act :=
  [.transact (.bindOAuthIdentity .discord "subject" 10) .fresh,
    .transact (.updateUserPassword "second" ⟨"second", "salt"⟩ 20) .fresh,
    .send (.password 1),
    .finish ⟨1, "ana", .setPassword ⟨2, some ⟨"second", "salt"⟩⟩⟩ .failed 30,
    .releaseHandler]

def passwordRemoval : Command := ⟨1, "ana", .setPassword ⟨3, none⟩⟩

def passwordUnbound : List Act :=
  [.transact (.unbindPassword 40) .fresh, .send (.removal 1), .execute passwordRemoval,
    .finish passwordRemoval .ok 50]

def awaitingUser : System := (run step newUser passwordAwaited).getD newUser

def awaitingAccount : AccountRow where
  localHandle := "ana"
  status := .error
  accountVersion := 3
  passwordMaterialVersion := 2
  passwordMaterial := some ⟨"second", "salt"⟩
  oauthSubjects := ⟨some "subject", none⟩
  provisioningWorkflowID := none
  updatedAt := 30

theorem waiting_accounts_recoverable_error :
    awaitingUser.rows.accounts.get? 1 = some awaitingAccount ∧
      awaitingUser.rows.Recoverable 1 awaitingAccount := by
  have hrun : run step newUser passwordAwaited = some awaitingUser := rfl
  have haccount : awaitingUser.rows.accounts.get? 1 = some awaitingAccount := by decide +kernel
  exact ⟨haccount, waiting_accounts_recoverable hrun (by decide +kernel) haccount
    (by decide +kernel) (by decide +kernel) (by decide +kernel)⟩

def strandedUser : System := (run step awaitingUser passwordUnbound).getD newUser

def strandedAccount : AccountRow :=
  { awaitingAccount with
    accountVersion := 4, passwordMaterialVersion := 3, passwordMaterial := none, updatedAt := 40 }

/-- **An unbound password strands the account.**  The user is active, and the account on the home is
in error; no workflow provisions it, no delivery is pending for it, and no list will ever select it.
-/
theorem unbound_password_strands_account :
    run step newUser (passwordAwaited ++ passwordUnbound) = some strandedUser ∧
      strandedUser.rows.globalStatus = .active ∧
      strandedUser.rows.accounts.get? 1 = some strandedAccount ∧
      strandedAccount.waits = true ∧ strandedAccount.owned strandedUser.rows.workflows = false ∧
      pendingPasswordRemoval strandedUser.rows 1 = false ∧
      (∀ provider, pendingOAuthIdentitySync strandedUser.rows provider 1 = false) ∧
      ∀ online now, dueForPasswordSync strandedUser.rows online now 1 = false := by
  have haccount : strandedUser.rows.accounts.get? 1 = some strandedAccount := by decide +kernel
  refine ⟨rfl, by decide +kernel, haccount, by decide +kernel, by decide +kernel,
    by decide +kernel, fun provider => ?_, fun online now => ?_⟩
  · cases provider <;> decide +kernel
  · have hnone : strandedAccount.pendingPasswordSync = false := by decide +kernel
    simp only [dueForPasswordSync, haccount, Option.any_some, hnone, Bool.and_false, Bool.false_and]

end StControl.Convergence
