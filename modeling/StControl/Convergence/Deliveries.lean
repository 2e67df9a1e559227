import StControl.Convergence.System

/-!
# Where commands arrive

A command names a node and a local account on it, and is executed there whenever it arrives.  What
the rows say about that account may have changed by then, also its handle: a transfer that prepares
an account on a node writes the user's own name over the handle of an import.  This module says what
can be relied on all the same, whatever is being delivered.

`Sends` lists what the controller sends and what the rows say at that moment.  `System.Addressed` is
the invariant: a command is for the account of the row on its node, or else the row has the user's
own name by now; and what a node has acknowledged, it holds or has exchanged for something newer. 
Only the command that provisions an account names the user without looking at the row; the invariant
needs that the row agrees (`addressesAccount`).
-/

namespace StControl.Convergence

open Store (NodeID UUID Time)
open Option

/-! ## What is sent -/

inductive Sends (s : System) : Sending → Command → Prop
  /-- A password, from the request that has staged it or from the row. -/
  | password {node : NodeID} {a : AccountRow} {material : Material}
      (row : s.rows.accounts.get? node = some a)
      (source : s.handler = some material ∧ a.staged ∨
        s.handler = none ∧ a.passwordMaterial = some material ∧ a.unconverged) :
      Sends s (.password node)
        ⟨node, a.localHandle, .setPassword ⟨a.passwordMaterialVersion, some material⟩⟩
  /-- The removal of a password. -/
  | removal {node : NodeID} {a : AccountRow} (row : s.rows.accounts.get? node = some a)
      (removed : a.passwordMaterial = none) :
      Sends s (.removal node)
        ⟨node, a.localHandle, .setPassword ⟨a.passwordMaterialVersion, none⟩⟩
  /-- A change of an identity. -/
  | identity {node : NodeID} {provider : Provider} {a : AccountRow} {sync : OAuthIdentitySync}
      (row : s.rows.accounts.get? node = some a)
      (intent : (s.rows.syncs provider).get? node = some sync)
      (active : a.status = .active) (version : sync.accountVersion = a.accountVersion)
      (current : s.rows.oauth.get provider =
        if sync.desiredPresent then some sync.subject else none) :
      Sends s (.identity node provider)
        ⟨node, a.localHandle,
          .setOAuthIdentity provider sync.subject sync.desiredPresent a.accountVersion⟩
  /-- The account that a workflow provisions. -/
  | account {workflowID : UUID} {w : TransferWorkflow} {a : AccountRow}
      (workflow : s.rows.workflows.get? workflowID = some w) (live : w.live)
      (row : s.rows.accounts.get? w.targetNodeID = some a) (inactive : a.status ≠ .active) :
      Sends s (.account workflowID)
        ⟨w.targetNodeID, s.rows.username, .restoreUserAccount workflowID a.accountVersion
          ⟨a.passwordMaterialVersion, a.passwordMaterial⟩ a.provisionedIdentity⟩

variable {s : System} {c : Command} {a : AccountRow} {t : Transaction} {account : LocalAccount}
  {request : Request} {r r' : Rows} {node : NodeID}
variable {sending : Sending}

lemma sends_of_command (h : s.command sending = some c) : Sends s sending c := by
  cases sending with
  | password node =>
    obtain ⟨a, ha, h⟩ := bind_eq_some_iff.mp h
    split at h
    next material hhandler =>
      simp only [ite_none_right_eq_some, some.injEq] at h
      obtain ⟨hstaged, rfl⟩ := h
      exact .password ha (.inl ⟨hhandler, hstaged⟩)
    next hhandler =>
      simp only [ite_none_right_eq_some, some.injEq, AccountRow.pendingPasswordSync,
        Bool.and_eq_true] at h
      obtain ⟨⟨hunconverged, hmaterial⟩, rfl⟩ := h
      obtain ⟨material, hmaterial⟩ := isSome_iff_exists.mp hmaterial
      rw [hmaterial]
      exact .password ha (.inr ⟨hhandler, hmaterial, hunconverged⟩)
  | removal node =>
    simp only [System.command, bind_eq_bind, bind_eq_some_iff, ite_none_right_eq_some,
      some.injEq] at h
    obtain ⟨removal, hremoval, hpending, rfl⟩ := h
    simp only [pendingPasswordRemoval, hremoval, Option.any_some, Option.any_eq_true,
      Bool.and_eq_true, decide_eq_true_eq,
      isNone_iff_eq_none] at hpending
    obtain ⟨a, ha, ⟨⟨⟨-, -⟩, hhandle⟩, hversion⟩, hnone⟩ := hpending
    rw [← hhandle, ← hversion]
    exact .removal ha hnone
  | identity node provider =>
    simp only [System.command, bind_eq_bind, bind_eq_some_iff, ite_none_right_eq_some,
      some.injEq] at h
    obtain ⟨sync, hsync, hpending, rfl⟩ := h
    simp only [pendingOAuthIdentitySync, hsync, Option.any_some, Option.any_eq_true,
      Bool.and_eq_true, decide_eq_true_eq] at hpending
    obtain ⟨a, ha, ⟨⟨⟨hhandle, hversion⟩, hactive⟩, -⟩, hcurrent⟩ := hpending
    rw [← hhandle, ← hversion]
    refine .identity ha hsync hactive hversion.symm ?_
    split at hcurrent <;> simp_all
  | account workflowID =>
    simp only [System.command, bind_eq_bind, bind_eq_some_iff, ite_none_right_eq_some,
      some.injEq] at h
    obtain ⟨w, hw, a, ha, ⟨hlive, hinactive, -⟩, rfl⟩ := h
    exact .account hw hlive ha hinactive

/-! ## Rows that say the same to a node -/

structure AccountRow.Restates (a a' : AccountRow) : Prop where
  localHandle : a'.localHandle = a.localHandle
  accountVersion : a'.accountVersion = a.accountVersion
  passwordMaterialVersion : a'.passwordMaterialVersion = a.passwordMaterialVersion
  passwordMaterial : a'.passwordMaterial = a.passwordMaterial
  oauthSubjects : a'.oauthSubjects = a.oauthSubjects

lemma AccountRow.Restates.refl (a : AccountRow) : a.Restates a := ⟨rfl, rfl, rfl, rfl, rfl⟩

lemma Command.Rewrites.restates {c : Command} {r : Rows} {answer : Answer} {now : Time}
    {node : NodeID} {a a' : AccountRow} (h : c.Rewrites r answer now node a a') :
    a.Restates a' := by
  cases h with
  | same => exact .refl a
  | _ => exact ⟨rfl, rfl, rfl, rfl, rfl⟩

lemma localHandle_rewrite (t : Transaction) (r : Rows) (node : NodeID) (a : AccountRow) :
    (t.rewrite r node a).localHandle = a.localHandle := by
  generalize t.rewrite r node a = a', t.rewrites r node a = h
  cases h <;> rfl

/-! ## Commands and handles -/

lemma mem_answers_of_ok {s : System} {c : Command} (h : s.answered c .ok) :
    (c, .ok) ∈ s.answers := by
  simpa only [System.answered, Bool.and_eq_true, Bool.or_eq_true, Bool.not_eq_true',
    decide_eq_true_eq, reduceCtorEq, false_or] using h

structure LocalAccount.HasTaken (account : LocalAccount) (request : Request) : Prop where
  password : ∀ p, request.password = some p → account.password.Supersedes p
  identity : ∀ provider i, request.identity provider = some i →
    (account.identities provider).Supersedes i

structure System.Addressed (s : System) : Prop where
  row : ∀ c ∈ s.sent, ∃ a, s.rows.accounts.get? c.node = some a ∧
    (c.handle = a.localHandle ∨ a.localHandle = s.rows.username)
  target : ∀ c ∈ s.sent, ∀ id version password identity,
    c.request = .restoreUserAccount id version password identity →
    ∃ w, s.rows.workflows.get? id = some w ∧ w.targetNodeID = c.node
  sent : ∀ c answer, (c, answer) ∈ s.answers → c ∈ s.sent
  taken : ∀ c, (c, .ok) ∈ s.answers → (s.nodes c.node c.handle).HasTaken c.request
  untouched : ∀ node, (∀ a, s.rows.accounts.get? node = some a →
    a.localHandle ≠ s.rows.username) → s.nodes node s.rows.username = .fresh

def addressesAccount (s : System) : Act → Bool
  | .send (.account workflowID) =>
    (s.rows.workflows.get? workflowID).all fun w =>
    (s.rows.accounts.get? w.targetNodeID).all fun a =>
      a.localHandle = s.rows.username
  | _ => true

lemma LocalAccount.HasTaken.apply
    (h : account.HasTaken request) (other : Request) : (account.apply other).HasTaken request := by
  refine ⟨fun p hp => ?_, fun provider i hi => ?_⟩
  · simp only [LocalAccount.apply]
    cases other.password with
    | none => exact h.password p hp
    | some q => exact (h.password p hp).offer q
  · simp only [LocalAccount.apply]
    cases other.identity provider with
    | none => exact h.identity provider i hi
    | some j => exact (h.identity provider i hi).offer j

open LocalAccount

lemma acknowledges_of_answer (h : account.answer request = .ok) : account.acknowledges request := by
  unfold answer at h
  split at h
  next hacknowledges => exact hacknowledges
  next => split at h <;> cases h

lemma acknowledges_identity (h : account.acknowledges request) {provider : Provider}
    {i : Versioned (Option String)} (hi : request.identity provider = some i) :
    (account.identities provider).acknowledges i := by
  simp only [acknowledges, Bool.and_eq_true, Option.all_eq_true] at h
  cases provider with
  | discord => exact h.1.2 i hi
  | linuxdo => exact h.2 i hi

lemma hasTaken_of_answer
    (h : account.answer request = .ok) : (account.apply request).HasTaken request := by
  have hacknowledges := acknowledges_of_answer h
  refine ⟨fun p hp => ?_, fun provider i hi => ?_⟩
  · simp only [acknowledges, Bool.and_eq_true, Option.all_eq_true] at hacknowledges
    simp only [apply, hp, map_some, getD_some]
    exact Versioned.supersedes_offer (hacknowledges.1.1 p hp)
  · simp only [apply, hi, map_some, getD_some]
    exact Versioned.supersedes_offer (acknowledges_identity hacknowledges hi)

/-! ## The invariant -/

section

variable (h : r.perform t = some r')
include h

lemma perform_row {a' : AccountRow} (ha' : r'.accounts.get? node = some a') :
    (∃ a, r.accounts.get? node = some a ∧ a' = t.rewrite r node a) ∨
      ∃ a, t.written r = some (node, a) ∧ a' = t.rewrite r node a := by
  rw [get?_perform h] at ha'
  obtain ⟨a, ha, rfl⟩ := map_eq_some_iff.mp ha'
  unfold Transaction.accountBefore at ha
  split at ha
  next n written hwritten =>
    split at ha
    next hnode =>
      cases ha
      exact .inr ⟨a, hnode ▸ hwritten, rfl⟩
    next => exact .inl ⟨a, ha, rfl⟩
  next => exact .inl ⟨a, ha, rfl⟩

lemma written_import (hwritten : t.written r = some (node, a)) :
    (∃ workflowID workflowType now, t = .createTransfer workflowID workflowType node now ∧
      a = preparedAccount workflowID now r (r.accounts.get? node)) ∨
    r.accounts.get? node = none ∧ t.imports = some (node, a.localHandle) ∧
      ∃ subjects now, a = importedAccount a.localHandle subjects now := by
  cases t with
  | createTransfer workflowID workflowType target now =>
    simp only [Transaction.written, ite_none_left_eq_some, some.injEq, Prod.mk.injEq] at hwritten
    obtain ⟨-, rfl, rfl⟩ := hwritten
    exact .inl ⟨workflowID, workflowType, now, rfl, rfl⟩
  | linkImportCandidate =>
    simp only [Transaction.written, ite_none_right_eq_some, some.injEq, Prod.mk.injEq] at hwritten
    obtain ⟨hnone, rfl, rfl⟩ := hwritten
    exact .inr ⟨hnone, rfl, _, _, rfl⟩
  | completeAccountImportClaim =>
    obtain ⟨rfl, rfl⟩ := hwritten
    simp only [Rows.perform, completeAccountImportClaim, ite_none_right_eq_some] at h
    exact .inr ⟨h.1.2, rfl, _, _, rfl⟩
  | _ => cases hwritten

lemma account_kept (ha : r.accounts.get? node = some a) : ∃ a', r'.accounts.get? node = some a' ∧
      (a'.localHandle = a.localHandle ∨ a'.localHandle = r.username) := by
  have hafter := get?_perform h node
  unfold Transaction.accountBefore at hafter
  split at hafter
  next n written hwritten =>
    split at hafter
    next hnode =>
      subst hnode
      rcases written_import h hwritten with ⟨workflowID, workflowType, now, -, rfl⟩ | ⟨hnone, -⟩
      · exact ⟨_, hafter, .inr (localHandle_rewrite ..)⟩
      · cases ha.symm.trans hnone
    next =>
      rw [ha] at hafter
      exact ⟨_, hafter, .inl (localHandle_rewrite ..)⟩
  next =>
    rw [ha] at hafter
    exact ⟨_, hafter, .inl (localHandle_rewrite ..)⟩

lemma account_imported {handle : String} (himports : t.imports = some (node, handle))
    (hnone : r.accounts.get? node = none) :
    ∃ a', r'.accounts.get? node = some a' ∧ a'.localHandle = handle := by
  have hafter := get?_perform h node
  cases t with
  | linkImportCandidate =>
    obtain ⟨rfl, rfl⟩ := himports
    simp only [Transaction.accountBefore, Transaction.written, hnone, if_true] at hafter
    exact ⟨_, hafter, localHandle_rewrite ..⟩
  | completeAccountImportClaim =>
    obtain ⟨rfl, rfl⟩ := himports
    simp only [Transaction.accountBefore, Transaction.written, if_true] at hafter
    exact ⟨_, hafter, localHandle_rewrite ..⟩
  | _ => cases himports

end

lemma importedNodes_apply (r : Rows) (known : LocalAccount)
    (nodes : NodeID → String → LocalAccount) (t : Transaction) (node : NodeID) (handle : String) :
    importedNodes r known nodes t node handle =
      if t.imports = some (node, handle) ∧ r.accounts.get? node = none then known
      else nodes node handle := by
  unfold importedNodes
  cases t.imports with
  | none => rfl
  | some imported =>
    obtain ⟨n, h⟩ := imported
    simp only [some.injEq, Prod.mk.injEq]
    by_cases heq : n = node ∧ h = handle
    · obtain ⟨rfl, rfl⟩ := heq
      by_cases hnone : r.accounts.get? n = none <;> simp [hnone]
    · simp only [heq, false_and, if_false]
      split
      · exact if_neg fun h => heq ⟨h.1.symm, h.2.symm⟩
      · rfl

lemma importedNodes_of_row (ha : r.accounts.get? node = some a) (known : LocalAccount)
    (nodes : NodeID → String → LocalAccount) (t : Transaction) (handle : String) :
    importedNodes r known nodes t node handle = nodes node handle := by
  rw [importedNodes_apply, ha]
  exact if_neg fun h => nomatch h.2

namespace System.Addressed

section

variable (hs : s.Addressed)
include hs

lemma transact {known : LocalAccount} {handler : Option Material} {rows : Rows}
    (h : s.rows.perform t = some rows) : System.Addressed { s with
      rows, handler
      nodes := importedNodes s.rows known s.nodes t, staged := nextStaged s.staged t } := by
  have hname := (perform_spares h).username
  refine ⟨fun c hc => ?_, fun c hc id version password identity hrequest => ?_, hs.sent,
    fun c hc => ?_, fun node hrows => ?_⟩
  · obtain ⟨a, ha, hhandle⟩ := hs.row c hc
    obtain ⟨a', ha', hkept⟩ := account_kept h ha
    refine ⟨a', ha', ?_⟩
    rw [hname]
    rcases hkept with hkept | hkept
    · rwa [hkept]
    · exact .inr hkept
  · obtain ⟨w, hw, htarget⟩ := hs.target c hc id version password identity hrequest
    obtain ⟨w', hw', hkept⟩ := target_kept h hw
    exact ⟨w', hw', hkept.trans htarget⟩
  · obtain ⟨a, ha, -⟩ := hs.row c (hs.sent c .ok hc)
    dsimp only
    rw [importedNodes_of_row ha]
    exact hs.taken c hc
  · dsimp only at hrows ⊢
    rw [hname] at hrows ⊢
    have hbefore : s.nodes node s.rows.username = .fresh := by
      refine hs.untouched node fun a ha => ?_
      obtain ⟨a', ha', hkept | hkept⟩ := account_kept h ha
      · exact hkept ▸ hrows a' ha'
      · exact absurd hkept (hrows a' ha')
    rw [importedNodes_apply]
    refine (if_neg fun himported => ?_).trans hbefore
    obtain ⟨a', ha', hhandle⟩ := account_imported h himported.1 himported.2
    exact hrows a' ha' hhandle

lemma send (h : Sends s sending c) (haddresses : addressesAccount s (.send sending)) :
    System.Addressed { s with sent := c :: s.sent, waiting := c :: s.waiting } := by
  refine ⟨fun c' hc' => ?_, fun c' hc' id version password identity hrequest => ?_,
    fun c' answer hc' => ?_, hs.taken, hs.untouched⟩
  · rcases List.mem_cons.mp hc' with rfl | hc'
    · cases h with
      | password row | removal row | identity row => exact ⟨_, row, .inl rfl⟩
      | account workflow live row =>
        refine ⟨_, row, .inr ?_⟩
        simpa only [addressesAccount, workflow, row, Option.all_some, decide_eq_true_eq]
          using haddresses
    · exact hs.row c' hc'
  · rcases List.mem_cons.mp hc' with rfl | hc'
    · cases h with
      | account workflow =>
        obtain ⟨rfl, -⟩ := Request.restoreUserAccount.inj hrequest
        exact ⟨_, workflow, rfl⟩
      | _ => cases hrequest
    · exact hs.target c' hc' id version password identity hrequest
  · exact List.mem_cons_of_mem _ (hs.sent c' answer hc')

lemma executed (hc : c ∈ s.sent) : (s.executed c).Addressed := by
  refine ⟨hs.row, hs.target, fun c' answer hc' => ?_, fun c' hc' => ?_, fun node hrows => ?_⟩
  · rcases List.mem_cons.mp hc' with heq | hc'
    · exact (Prod.mk.inj heq).1 ▸ hc
    · exact hs.sent c' answer hc'
  · simp only [System.executed]
    rcases List.mem_cons.mp hc' with heq | hc'
    · obtain ⟨rfl, hok⟩ := Prod.mk.inj heq
      rw [if_pos ⟨rfl, rfl⟩]
      exact hasTaken_of_answer hok.symm
    · split
      · exact (hs.taken c' hc').apply c.request
      · exact hs.taken c' hc'
  · have hbefore := hs.untouched node hrows
    refine (if_neg fun heq => ?_).trans hbefore
    obtain ⟨rfl, hhandle⟩ := heq
    obtain ⟨a, ha, hkept⟩ := hs.row c hc
    rcases hkept with hkept | hkept
    · exact hrows a ha (hkept.symm.trans hhandle.symm)
    · exact hrows a ha hkept

lemma finish (c : Command) (answer : Answer) (now : Time) : System.Addressed
      { s with rows := s.rows.record c answer now, waiting := s.waiting.erase c } := by
  obtain ⟨hname, -, -, hworkflows⟩ := record_frame s.rows c answer now
  refine ⟨fun c' hc' => ?_, ?_, hs.sent, hs.taken, fun node hrows => ?_⟩
  · obtain ⟨a, ha, hhandle⟩ := hs.row c' hc'
    refine ⟨c.rewrite s.rows answer now c'.node a, ?_, ?_⟩
    · rw [get?_record, ha, map_some]
    · rwa [hname, (c.rewrites ..).restates.localHandle]
  · rw [hworkflows]
    exact hs.target
  · rw [hname] at hrows ⊢
    refine hs.untouched node fun a ha => ?_
    have hafter := hrows (c.rewrite s.rows answer now node a)
      (by rw [get?_record, ha, map_some])
    rwa [(c.rewrites ..).restates.localHandle] at hafter

lemma step {s' : System} {act : Act} (haddresses : addressesAccount s act)
    (h : Convergence.step s act = some s') : s'.Addressed := by
  cases stepped_of_step h with
  | transact _ hrows => exact hs.transact hrows
  | send hc => exact hs.send (sends_of_command hc) haddresses
  | execute hc => exact hs.executed hc
  | finish => exact hs.finish ..
  | releaseHandler => exact { hs with }

end

end System.Addressed

lemma registered_addressed (username : String) (home : NodeID) (credential : Credential)
    (now : Time) : (registered username home credential now).Addressed := by
  refine ⟨nofun, nofun, nofun, nofun, fun node hrows => if_neg fun heq => ?_⟩
  obtain ⟨rfl, -⟩ := heq
  exact hrows _ (Table.get?_put_self ..) rfl

end StControl.Convergence
