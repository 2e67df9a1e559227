import StControl.Convergence.System

/-!
# How long a superseded password is accepted

After a change of the password the nodes learn the new one in their own time.  Until they all have,
the controller also accepts the previous password (`PasswordFallbackHash`), for two days at most, so
that a user is not turned away in one place with a password that another still wants.

The fallback is decided from the rows as they are at the login: some account is pending or in error,
and no workflow provisions it.  But an account is in error for other reasons too.  The failure of a
restore leaves the account that it was to provision in that state, and a delivery that fails puts an
account there that has converged; the row of the identity meanwhile keeps the superseded verifier,
which only the durable worker drops, and only after a round in which it has delivered something.  So
a password that had died is accepted again (`superseded_password_revived`).
-/

namespace StControl.Convergence

open Store (NodeID UUID Time)
open Run Option

/-! ## Logins and changes -/

/-- `passwordMatches`: the verifier comes with the row of the user that the handler has read before;
`check` is the comparison of a verifier with a password. -/
def passwordMatches (check : PasswordHash → String → Bool) (verifier : Option PasswordHash)
    (r : Rows) (now : Time) (password : String) : Bool :=
  verifier.any fun hash =>
    check hash password || (passwordFallbackHash r now).any fun previous => check previous password

def Rows.verifier (r : Rows) : Option PasswordHash := r.password.map (·.passwordHash)

def passwordChange (r : Rows) : Act → Option (PasswordHash × Time)
  | .transact (.updateUserPassword _ _ now) _
  | .transact (.recoverUserPasswordIdentity _ _ now) _ => r.verifier.map fun hash => (hash, now)
  | _ => none

def Rows.lingering (r : Rows) : Bool :=
  !r.incomplete && r.password.any fun identity => identity.previousPasswordHash.isSome

/-- The step does not undo the convergence of a user whose superseded verifier is still there: a
restore that fails has no account to give up, and a delivery that fails none but one that a workflow
provisions. -/
def leavesConverged (s : System) : Act → Bool
  | .transact (.failRestoreWorkflow workflowID _) _ =>
    !s.rows.lingering || (s.rows.workflows.get? workflowID).all fun w =>
      (s.rows.accounts.get? w.targetNodeID).all fun a => a.status ≠ .pending
  | .finish ⟨node, _, .setPassword ⟨_, some _⟩⟩ answer _ =>
    !s.rows.lingering || answer = .ok ||
      (s.rows.accounts.get? node).all fun a => a.provisioningWorkflowID.isSome
  | _ => true

/-! ## Which steps put an account behind -/

variable {r : Rows} {t : Transaction} {node : NodeID} {a : AccountRow} {s s' : System} {act : Act}
  {previous : PasswordHash} {changedAt : Time}
variable {acts : List Act}

lemma incomplete_eq_false :
    r.incomplete = false ↔ ∀ node a, r.accounts.get? node = some a → a.unconverged = false :=
  Table.any_eq_false

lemma written_unconverged (h : t.written r = some (node, a)) : a.unconverged = false := by
  cases t with
  | createTransfer =>
    simp only [Transaction.written, ite_none_left_eq_some, some.injEq] at h
    rw [← (Prod.mk.inj h.2).2]
    rfl
  | linkImportCandidate =>
    simp only [Transaction.written, ite_none_right_eq_some, some.injEq] at h
    rw [← (Prod.mk.inj h.2).2]
    rfl
  | completeAccountImportClaim =>
    rw [← (Prod.mk.inj (some.inj h)).2]
    rfl
  | _ => cases h

lemma accountBefore_unconverged (hconverged : r.incomplete = false)
    (h : t.accountBefore r node = some a) : a.unconverged = false := by
  unfold Transaction.accountBefore at h
  split at h
  next n written hwritten =>
    split at h
    · cases h
      exact written_unconverged hwritten
    · exact incomplete_eq_false.mp hconverged node a h
  next => exact incomplete_eq_false.mp hconverged node a h

lemma Transaction.Rewrites.unconverged {a' : AccountRow} (hstages : t.stages = false)
    (hrestore : ∀ workflowID now w, t = .failRestoreWorkflow workflowID now →
      r.workflows.get? workflowID = some w → node = w.targetNodeID → a.status ≠ .pending)
    (hbefore : a.unconverged = false) (h : t.Rewrites r node a a') : a'.unconverged = false := by
  cases h with
  | staged stages => exact nomatch hstages.symm.trans stages
  | givenUp fails found target pending =>
    exact absurd pending (hrestore _ _ _ fails found target)
  | activated | superseded | frozen => rfl
  | _ => exact hbefore

lemma perform_converged {r' : Rows} (h : r.perform t = some r') (hstages : t.stages = false)
    (hrestore : ∀ workflowID now w a, t = .failRestoreWorkflow workflowID now →
      r.workflows.get? workflowID = some w → r.accounts.get? w.targetNodeID = some a →
      a.status ≠ .pending) (hconverged : r.incomplete = false) : r'.incomplete = false := by
  rw [incomplete_eq_false]
  intro node a' ha'
  rw [get?_perform h] at ha'
  obtain ⟨a, ha, rfl⟩ := map_eq_some_iff.mp ha'
  refine (t.rewrites r node a).unconverged hstages ?_ (accountBefore_unconverged hconverged ha)
  rintro workflowID now w rfl hw rfl
  exact hrestore workflowID now w a rfl hw ha

lemma record_converged {c : Command} {answer : Answer} {now : Time}
    (hdelivery : ∀ version material a, c.request = .setPassword ⟨version, some material⟩ →
      answer ≠ .ok → r.accounts.get? c.node = some a → a.provisioningWorkflowID.isSome)
    (hconverged : r.incomplete = false) : (r.record c answer now).incomplete = false := by
  rw [incomplete_eq_false]
  intro node a' ha'
  obtain ⟨a, ha, hrewrites⟩ := of_get?_record ha'
  have hbefore := incomplete_eq_false.mp hconverged node a ha
  cases hrewrites with
  | same => exact hbefore
  | failed hfailed =>
    have hprovisioned := hdelivery _ _ a rfl hfailed ha
    simp only [AccountRow.unconverged, isNone_eq_false_iff, hprovisioned, Bool.and_eq_false_imp,
      implies_true]
  | activated | frozen | provisioned => rfl

/-! ## The row of the password -/

lemma perform_password {r' : Rows} (h : r.perform t = some r')
    (hchange : r.password = none ∨ t.stages = false) : r'.password = r.password ∨
      ∀ identity, r'.password = some identity → identity.previousPasswordHash = none := by
  cases t with
  | updateUserPassword hash material now =>
    obtain ⟨identity, hidentity, -⟩ := map_eq_some_iff.mp h
    rw [hidentity] at hchange
    rcases hchange with hchange | hchange <;> cases hchange
  | bindPasswordIdentity hash material now =>
    obtain ⟨-, rfl⟩ := of_guarded h
    refine .inr fun identity hidentity => ?_
    cases hidentity
    rfl
  | recoverUserPasswordIdentity hash material now =>
    have hnone : r.password = none := hchange.resolve_right nofun
    obtain ⟨-, rfl⟩ := of_guarded h
    refine .inr fun identity hidentity => ?_
    rw [hnone] at hidentity
    cases hidentity
    rfl
  | unbindPassword now =>
    obtain ⟨-, rfl⟩ := of_guarded h
    exact .inr fun identity hidentity => nomatch hidentity
  | clearPasswordFallbackIfConverged =>
    cases h
    unfold clearPasswordFallbackIfConverged
    split
    · exact .inl rfl
    · refine .inr fun identity hidentity => ?_
      obtain ⟨old, -, rfl⟩ := map_eq_some_iff.mp hidentity
      rfl
  | _ => exact .inl ((perform_spares h).password rfl)

lemma record_password (r : Rows) (c : Command) (answer : Answer) (now : Time) :
    (r.record c answer now).password = r.password :=
  (record_frame r c answer now).2.1

section

variable (h : step s act = some s')
include h

lemma step_password (hchange : passwordChange s.rows act = none) :
    s'.rows.password = s.rows.password ∨
      ∀ identity, s'.rows.password = some identity → identity.previousPasswordHash = none := by
  cases stepped_of_step h with
  | @transact t _ _ _ _ hrows =>
    refine perform_password hrows ?_
    cases t with
    | updateUserPassword
    | recoverUserPasswordIdentity => exact .inl (map_eq_none_iff.mp (map_eq_none_iff.mp hchange))
    | bindPasswordIdentity hash material now =>
      simp only [Rows.perform, bindPasswordIdentity, ite_none_right_eq_some] at hrows
      exact .inl hrows.1.2
    | _ => exact .inr rfl
  | finish => exact .inl (record_password ..)
  | _ => exact .inl rfl

lemma step_change (hchange : passwordChange s.rows act = some (previous, changedAt)) :
    ∃ hash, s'.rows.password = some ⟨hash, some previous, some changedAt⟩ := by
  cases stepped_of_step h with
  | @transact t _ _ _ _ hrows =>
    cases t with
    | updateUserPassword hash material now =>
      obtain ⟨identity, hidentity, rfl⟩ := map_eq_some_iff.mp hrows
      simp only [passwordChange, Rows.verifier, hidentity, map_some, some.injEq,
        Prod.mk.injEq] at hchange
      obtain ⟨rfl, rfl⟩ := hchange
      exact ⟨hash, rfl⟩
    | recoverUserPasswordIdentity hash material now =>
      obtain ⟨-, rfl⟩ := of_guarded hrows
      simp only [passwordChange, Rows.verifier, Option.map_map, map_eq_some_iff] at hchange
      obtain ⟨identity, hidentity, heq⟩ := hchange
      obtain ⟨rfl, rfl⟩ := Prod.mk.inj heq
      refine ⟨hash, ?_⟩
      rw [hidentity]
      rfl
    | _ => cases hchange
  | _ => cases hchange

lemma step_converged (hchange : passwordChange s.rows act = none) (hleaves : leavesConverged s act)
    {identity : PasswordIdentity} (hpassword : s.rows.password = some identity)
    (hprevious : identity.previousPasswordHash.isSome) (hconverged : s.rows.incomplete = false) :
    s'.rows.incomplete = false := by
  have hlingering : s.rows.lingering := by
    simp only [Rows.lingering, hconverged, hpassword, Option.any_some, hprevious, Bool.not_false,
      Bool.and_self]
  cases stepped_of_step h with
  | @transact t _ _ _ _ hrows =>
    refine perform_converged hrows ?_ ?_ hconverged
    · cases t with
      | updateUserPassword
      | recoverUserPasswordIdentity => simp [passwordChange, Rows.verifier, hpassword] at hchange
      | bindPasswordIdentity hash material now =>
        simp only [Rows.perform, bindPasswordIdentity, ite_none_right_eq_some] at hrows
        rw [hpassword] at hrows
        cases hrows.1.2
      | _ => rfl
    · rintro workflowID now w a rfl hw ha
      simp only [leavesConverged, hlingering, hw, ha, Option.all_some, Bool.not_true,
        Bool.false_or, decide_eq_true_eq] at hleaves
      exact hleaves
  | @finish c =>
    refine record_converged (fun version material a hrequest hfailed ha => ?_) hconverged
    obtain ⟨node, handle, request⟩ := c
    subst hrequest
    simpa only [leavesConverged, hlingering, ha, hfailed, Option.all_some, Bool.not_true,
      Bool.false_or, decide_false] using hleaves
  | _ => exact hconverged

end

/-! ## Whole runs -/

/-- The last change of the password in the run was at `changedAt` and superseded `previous`; at
every moment since then some account was behind. -/
def SupersededSince (start : System) (acts : List Act) (s : System) (previous : PasswordHash)
    (changedAt : Time) : Prop :=
  ∃ before change after u v, acts = before ++ change :: after ∧
    run step start before = some u ∧ step u change = some v ∧ run step v after = some s ∧
    passwordChange u.rows change = some (previous, changedAt) ∧
    Meets step (fun w act => w.rows.incomplete ∧ passwordChange w.rows act = none) v after ∧
    s.rows.incomplete

lemma SupersededSince.cons {t u : System} (hstep : step s act = some t)
    (h : SupersededSince t acts u previous changedAt) :
    SupersededSince s (act :: acts) u previous changedAt := by
  obtain ⟨before, change, after, v, w, rfl, hbefore, hrest⟩ := h
  exact ⟨act :: before, change, after, v, w, rfl, run_cons_eq_some.mpr ⟨t, hstep, hbefore⟩, hrest⟩

lemma superseded_or_unchanged (hrun : run step s acts = some s')
    (hmeets : Meets step (fun s act => leavesConverged s act) s acts) {hash : PasswordHash}
    (hpassword : s'.rows.password = some ⟨hash, some previous, some changedAt⟩)
    (hincomplete : s'.rows.incomplete) : SupersededSince s acts s' previous changedAt ∨
      s.rows.password = some ⟨hash, some previous, some changedAt⟩ ∧ s.rows.incomplete ∧
        Meets step (fun w act => w.rows.incomplete ∧ passwordChange w.rows act = none) s acts := by
  induction acts generalizing s with
  | nil =>
    cases hrun
    exact .inr ⟨hpassword, hincomplete, trivial⟩
  | cons act acts ih =>
    obtain ⟨t, hstep, hrest⟩ := run_cons_eq_some.mp hrun
    rcases ih hrest (hmeets.2 t hstep) with hsince | ⟨hrow, hbehind, halong⟩
    · exact .inl (hsince.cons hstep)
    cases hchange : passwordChange s.rows act with
    | some change =>
      obtain ⟨superseded, at'⟩ := change
      obtain ⟨hash', hchanged⟩ := step_change hstep hchange
      rw [hrow, some.injEq, PasswordIdentity.mk.injEq] at hchanged
      obtain ⟨-, hprevious, hchangedAt⟩ := hchanged
      rw [← some.inj hprevious, ← some.inj hchangedAt] at hchange
      exact .inl ⟨[], act, acts, s, t, rfl, rfl, hstep, hrest, hchange, halong, hincomplete⟩
    | none =>
      right
      have hsame : s.rows.password = some ⟨hash, some previous, some changedAt⟩ := by
        rcases step_password hstep hchange with hsame | hnone
        · exact hsame ▸ hrow
        · exact nomatch hnone _ hrow
      have hbehind' : s.rows.incomplete := by
        by_contra hconverged
        rw [Bool.not_eq_true] at hconverged
        have := step_converged hstep hchange hmeets.1 hsame rfl hconverged
        cases hbehind.symm.trans this
      refine ⟨hsame, hbehind', ⟨hbehind', hchange⟩, fun u hu => ?_⟩
      rw [hstep, some.injEq] at hu
      exact hu ▸ halong

/-- **When another password than the newest is accepted.**  A login reads the row of the user in
`s₁` and, if need be, the fallback in `s₂`.  If no failed restore and no failed delivery has undone
the convergence of a user whose superseded verifier was still there, then the password is the newest
in `s₁`, or it is the one that the last change before `s₂` has superseded; that change is not older
than the window, and some account was behind ever since. -/
theorem superseded_password_accepted (check : PasswordHash → String → Bool) {username : String}
    {home : NodeID} {credential : Credential} {start : Time} {acts₁ acts₂ : List Act}
    {s₁ s₂ : System} (hread : run step (registered username home credential start) acts₁ = some s₁)
    (hlogin : run step s₁ acts₂ = some s₂)
    (hmeets : Meets step (fun s act => leavesConverged s act = true)
      (registered username home credential start) (acts₁ ++ acts₂)) {now : Time} {password : String}
    (haccepted : passwordMatches check s₁.rows.verifier s₂.rows now password = true) :
    (∃ hash, s₁.rows.verifier = some hash ∧ check hash password = true) ∨
      ∃ previous changedAt, check previous password = true ∧
        now - changedAt ≤ passwordFallbackWindow ∧
        SupersededSince (registered username home credential start) (acts₁ ++ acts₂) s₂ previous
          changedAt := by
  simp only [passwordMatches, Option.any_eq_true, Bool.or_eq_true] at haccepted
  obtain ⟨hash, hhash, hnewest | ⟨previous, hfallback, hprevious⟩⟩ := haccepted
  · exact .inl ⟨hash, hhash, hnewest⟩
  right
  simp only [passwordFallbackHash, bind_eq_bind, bind_eq_some_iff,
    ite_none_right_eq_some, some.injEq] at hfallback
  obtain ⟨⟨hash', previous', changedAt'⟩, hpassword, _, hprev, changedAt, hchanged,
    ⟨-, hincomplete, hwindow⟩, rfl⟩ := hfallback
  subst hprev hchanged
  refine ⟨_, changedAt, hprevious, hwindow, ?_⟩
  have hrun := run_append_eq_some.mpr ⟨s₁, hread, hlogin⟩
  rcases superseded_or_unchanged hrun hmeets hpassword hincomplete with hsince | ⟨hstart, -, -⟩
  · exact hsince
  · cases credential <;> cases hstart

/-! ## A restore that fails -/

def passwordChanged : List Act :=
  [.transact (.updateUserPassword "second" ⟨"second", "salt"⟩ 10) .fresh]

def newPassword : Command := ⟨1, "ana", .setPassword ⟨2, some ⟨"second", "salt"⟩⟩⟩

def passwordDelivered : List Act :=
  [.send (.password 1), .execute newPassword, .finish newPassword .ok 20, .releaseHandler]

def restoreFailed : List Act :=
  [.transact (.createTransfer 7 .restore 2 30) .fresh, .transact (.failRestoreWorkflow 7 40) .fresh]

def changedUser : System := (run step newUser passwordChanged).getD newUser

def convergedUser : System := (run step changedUser passwordDelivered).getD newUser

def revivedUser : System := (run step convergedUser restoreFailed).getD newUser

theorem superseded_password_accepted_pending :
    passwordMatches (fun hash password => hash = password) changedUser.rows.verifier
        changedUser.rows 15 "first" = true ∧
      ((∃ hash, changedUser.rows.verifier = some hash ∧ decide (hash = "first") = true) ∨
        ∃ previous changedAt, decide (previous = "first") = true ∧
          15 - changedAt ≤ passwordFallbackWindow ∧
          SupersededSince newUser (passwordChanged ++ []) changedUser previous changedAt) :=
  ⟨by decide +kernel, superseded_password_accepted (fun hash password => hash = password) rfl rfl
      (by decide +kernel) (by decide +kernel)⟩

/-- After the change every account has converged; then a restore fails, and the superseded password
is accepted again. -/
theorem superseded_password_revived : run step newUser passwordChanged = some changedUser ∧
      run step changedUser passwordDelivered = some convergedUser ∧
      convergedUser.rows.incomplete = false ∧
      run step convergedUser restoreFailed = some revivedUser ∧
      revivedUser.rows.verifier = some "second" ∧
      passwordMatches (fun hash password => hash = password) revivedUser.rows.verifier
        revivedUser.rows 50 "first" = true :=
  ⟨rfl, rfl, by decide +kernel, rfl, by decide +kernel, by decide +kernel⟩

end StControl.Convergence
