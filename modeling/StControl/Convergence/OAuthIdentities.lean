import StControl.Convergence.AccountIntents
import StControl.Convergence.Deliveries

/-!
# Which identities a node knows

A change of an OAuth identity leaves an intent for every account: the identity to be set or taken
away, under the version that the account then has.  A worker delivers the intents of active accounts
and repairs them where an account was replaced (`ReconcileOAuthIdentitySyncIntents`).  An account
that is active and has no pending intent is meant to know exactly the identities of the user.

A node that refuses an identity, because it has accepted something else under the same or a larger
version, answers with a conflict.  The controller then freezes the user, and counts the intent as
completed in the same transaction (`FreezeOAuthIdentitySyncConflict`).  When the conflict is
resolved the account becomes active, and nothing is pending: the identity is never set
(`conflict_consumes_identity`).

What is kept about an account and a provider is `AccountRow.Told`.  Its core is that every offer
under the version of the intent, or a larger one, is the identity that the user has now: so whatever
a node takes late, it takes nothing that is wrong.
-/

namespace StControl.Convergence

open Store (NodeID UUID Time)
open Run Option Table

variable {i : OAuthIdentitySync} {sent : List Command} {handler : Option Material}
  {sending : Sending}

/-! ## The property -/

def OAuthIdentitySync.desired (i : OAuthIdentitySync) : Option String :=
  if i.desiredPresent then some i.subject else none

section

variable (r : Rows)

def Rows.NothingPending (node : NodeID) : Prop :=
  ∀ provider i, (r.syncs provider).get? node = some i → i.state ≠ .pending

def System.IdentitiesKnown (s : System) : Prop :=
  ∀ node a, s.rows.accounts.get? node = some a → a.status = .active → s.rows.NothingPending node →
    ∀ provider, ((s.nodes node a.localHandle).identities provider).value = s.rows.oauth.get provider

def System.RemovalsYield (s : System) : Prop :=
  s.sent.Pairwise fun later earlier => later.node = earlier.node → later.handle = earlier.handle →
    (later, .ok) ∈ s.answers → ∀ provider bound removed,
      later.request.identity provider = some bound → bound.value.isSome →
      earlier.request.identity provider = some removed → removed.value = none →
      ((s.nodes later.node later.handle).apply earlier.request).identities provider =
        (s.nodes later.node later.handle).identities provider

/-! ## The condition -/

/-- Every identity of the user has an intent for the account, and the intents are those of the
account as it is. -/
def Rows.reconciled (node : NodeID) (a : AccountRow) (provider : Provider) : Bool :=
  match (r.syncs provider).get? node with
  | none => (r.oauth.get provider).isNone
  | some i => i.accountVersion = a.accountVersion && i.localHandle = a.localHandle

def Rows.attunes (node : NodeID) (a : AccountRow) : Bool :=
  a.provisioningWorkflowID.isNone ||
    r.reconciled node a .discord && r.reconciled node a .linuxdo

def Rows.knows (known : LocalAccount) : Bool :=
  (known.identities .discord).value = r.oauth.get .discord &&
    (known.identities .linuxdo).value = r.oauth.get .linuxdo

def Transaction.keepsIdentities (known : LocalAccount) : Transaction → Bool
  | .failRestoreWorkflow workflowID _ =>
    (r.workflows.get? workflowID).all fun w => (r.accounts.get? w.targetNodeID).all fun a =>
      a.status ≠ .pending || r.attunes w.targetNodeID a
  | .linkImportCandidate node _ _ otherReplicas _ =>
    ((r.accounts.get? node).isSome || r.knows known) &&
      (!r.otherData node otherReplicas || !r.provisioning)
  | .completeAccountImportClaim .. => r.knows known
  | _ => true

def Command.keepsIdentities (c : Command) (answer : Answer) : Bool :=
  match c.request with
  | .setPassword ⟨_, some _⟩ =>
    (r.accounts.get? c.node).all fun a =>
      answer ≠ .ok || !a.staged || a.provisioningWorkflowID.isNone
  | .setPassword ⟨_, none⟩ => true
  | .setOAuthIdentity .. => !c.freezes r answer
  | .restoreUserAccount .. =>
    (r.accounts.get? c.node).all fun a => !c.provisions r answer c.node || r.attunes c.node a

end

def keepsIdentities (s : System) (act : Act) : Bool :=
  addressesAccount s act &&
    match act with
    | .transact t known => t.keepsIdentities s.rows known
    | .finish c answer _ => c.keepsIdentities s.rows answer
    | _ => true

/-! ## An account and a provider -/

/-- What is kept about an account and one provider: `desired` is the identity of the user, `held`
what the node has, and `offered` says what was ever offered to the node. -/
structure AccountRow.Told (desired : Option String) (intent : Option OAuthIdentitySync)
    (held : Versioned (Option String)) (offered : Versioned (Option String) → Prop)
    (a : AccountRow) : Prop where
  content : ∀ i, intent = some i → i.desired = desired
  version : ∀ i, intent = some i → i.accountVersion ≤ a.accountVersion
  bounded : ∀ o, offered o → o.version ≤ a.accountVersion
  newest : ∀ o, offered o → (∀ i, intent = some i → i.accountVersion ≤ o.version) →
    o.value = desired
  handle : a.provisioningWorkflowID = none → ∀ i, intent = some i → i.localHandle = a.localHandle
  waiting : a.provisioningWorkflowID.isSome → ∀ i, intent = some i →
    i.accountVersion = a.accountVersion → i.state = .pending
  unasked : intent = none →
    held.value = desired ∨ a.provisioningWorkflowID.isSome ∧ held.value = none
  completed : a.provisioningWorkflowID = none → ∀ i, intent = some i → i.state = .completed →
    held.value = desired ∧ i.accountVersion ≤ held.version

structure AccountRow.Follows (a a' : AccountRow) : Prop where
  localHandle : a'.localHandle = a.localHandle
  accountVersion : a.accountVersion ≤ a'.accountVersion
  provisioningWorkflowID : a'.provisioningWorkflowID = a.provisioningWorkflowID

section Told

variable {desired desired' : Option String} {intent : Option OAuthIdentitySync}
  {held held' : Versioned (Option String)} {offered offered' : Versioned (Option String) → Prop}
  {a a' : AccountRow}

lemma told_of_pending (hbounded : ∀ o, offered o → o.version ≤ a.accountVersion)
    (hnewest : ∀ o, offered o → a.accountVersion ≤ o.version → o.value = desired)
    (hdesired : i.desired = desired) (hi : i.accountVersion = a.accountVersion)
    (hhandle : i.localHandle = a.localHandle) (hpending : i.state = .pending) :
    a.Told desired (some i) held offered := by
  refine ⟨?_, ?_, hbounded, fun o ho hnewer => hnewest o ho (hi ▸ hnewer i rfl), ?_, ?_, nofun, ?_⟩
  · rintro _ ⟨⟩
    exact hdesired
  · rintro _ ⟨⟩
    exact Nat.le_of_eq hi
  · rintro - _ ⟨⟩
    exact hhandle
  · rintro - _ ⟨⟩ -
    exact hpending
  · rintro - _ ⟨⟩ hcompleted
    cases hpending.symm.trans hcompleted

section

variable (h : a.Told desired intent held offered)
include h

namespace AccountRow.Told

lemma follow (hfollows : a.Follows a') : a'.Told desired intent held offered := by
  have hle := hfollows.accountVersion
  refine ⟨h.content, fun i hi => Nat.le_trans (h.version i hi) hle,
    fun o ho => Nat.le_trans (h.bounded o ho) hle, h.newest, ?_, ?_, ?_, ?_⟩
  · rw [hfollows.provisioningWorkflowID, hfollows.localHandle]
    exact h.handle
  · rw [hfollows.provisioningWorkflowID]
    intro hsome i hi hversion
    have := h.version i hi
    exact h.waiting hsome i hi (by omega)
  · rw [hfollows.provisioningWorkflowID]
    exact h.unasked
  · rw [hfollows.provisioningWorkflowID]
    exact h.completed

lemma prepare (hversion : a.accountVersion < a'.accountVersion)
    (hprovisioned : a'.provisioningWorkflowID.isSome)
    (hheld : held' = held ∨ held'.value = none) : a'.Told desired intent held' offered := by
  have hnot : a'.provisioningWorkflowID ≠ none := isSome_iff_ne_none.mp hprovisioned
  refine ⟨h.content, fun i hi => Nat.le_trans (h.version i hi) (Nat.le_of_lt hversion),
    fun o ho => Nat.le_trans (h.bounded o ho) (Nat.le_of_lt hversion), h.newest,
    fun hnone => absurd hnone hnot, fun _ i hi heq => ?_, fun hnone => ?_, fun hnone =>
      absurd hnone hnot⟩
  · have := h.version i hi
    omega
  · rcases hheld with rfl | hheld
    · exact (h.unasked hnone).imp_right fun hold => ⟨hprovisioned, hold.2⟩
    · exact .inr ⟨hprovisioned, hheld⟩

lemma release (hreconciled : a.provisioningWorkflowID = none ∨
      (∀ i, intent = some i → i.accountVersion = a.accountVersion ∧ i.localHandle = a.localHandle) ∧
        (intent = none → desired = none)) (hhandle : a'.localHandle = a.localHandle)
    (hversion : a'.accountVersion = a.accountVersion) (hnone : a'.provisioningWorkflowID = none) :
    a'.Told desired intent held offered := by
  have hsettled : (∀ i, intent = some i → i.localHandle = a.localHandle) ∧
      (intent = none → held.value = desired) ∧ ∀ i, intent = some i → i.state = .completed →
        held.value = desired ∧ i.accountVersion ≤ held.version := by
    by_cases hbefore : a.provisioningWorkflowID = none
    · refine ⟨h.handle hbefore, fun hunasked => ?_, h.completed hbefore⟩
      refine (h.unasked hunasked).resolve_right fun hold => ?_
      rw [hbefore] at hold
      exact nomatch hold.1
    · obtain ⟨hcurrent, habsent⟩ := hreconciled.resolve_left hbefore
      refine ⟨fun i hi => (hcurrent i hi).2, fun hunasked => ?_, fun i hi hcompleted => ?_⟩
      · rcases h.unasked hunasked with hheld | ⟨-, hheld⟩
        · exact hheld
        · rw [hheld, habsent hunasked]
      · have hpending := h.waiting (isSome_iff_ne_none.mpr hbefore) i hi (hcurrent i hi).1
        cases hpending.symm.trans hcompleted
  refine ⟨h.content, hversion ▸ h.version, hversion ▸ h.bounded, h.newest, ?_, ?_,
    fun hunasked => .inl (hsettled.2.1 hunasked), fun _ => hsettled.2.2⟩
  · rw [hhandle]
    exact fun _ => hsettled.1
  · rw [hnone]
    nofun

lemma offer {o : Versioned (Option String)} (ho : offered o) :
    a.Told desired intent (held.offer o) offered := by
  by_cases hlt : held.version < o.version
  · rw [Versioned.offer_of_lt hlt]
    refine ⟨h.content, h.version, h.bounded, h.newest, h.handle, h.waiting, fun hnone => ?_,
      fun hprovisioned i hi hcompleted => ?_⟩
    · refine .inl (h.newest o ho fun i hi => ?_)
      cases hnone.symm.trans hi
    · have hversion := (h.completed hprovisioned i hi hcompleted).2
      refine ⟨h.newest o ho fun j hj => ?_, by omega⟩
      obtain rfl := mem_unique hi hj
      omega
  · rwa [Versioned.offer_of_le (Nat.not_lt.mp hlt)]

lemma send (hnew : ∀ o, offered' o → offered o ∨ o.value = desired ∧ o.version = a.accountVersion) :
    a.Told desired intent held offered' := by
  refine ⟨h.content, h.version, fun o ho => ?_, fun o ho hnewer => ?_, h.handle, h.waiting,
    h.unasked, h.completed⟩
  · rcases hnew o ho with hold | ⟨-, hversion⟩
    · exact h.bounded o hold
    · exact Nat.le_of_eq hversion
  · rcases hnew o ho with hold | ⟨hvalue, -⟩
    · exact h.newest o hold hnewer
    · exact hvalue

lemma finish {j : OAuthIdentitySync} (hi : intent = some i) (hdesired : j.desired = i.desired)
    (hversion : j.accountVersion = i.accountVersion) (hhandle : j.localHandle = i.localHandle)
    (hstate : a.provisioningWorkflowID.isSome → i.accountVersion = a.accountVersion →
      j.state = .pending) (htaken : a.provisioningWorkflowID = none → j.state = .completed →
      held.value = desired ∧ i.accountVersion ≤ held.version) :
    a.Told desired (some j) held offered := by
  refine ⟨?_, ?_, h.bounded, fun o ho hnewer => ?_, fun hnone => ?_, fun hsome => ?_, nofun,
    fun hnone => ?_⟩
  · rintro _ ⟨⟩
    exact hdesired.trans (h.content i hi)
  · rintro _ ⟨⟩
    exact hversion ▸ h.version i hi
  · refine h.newest o ho fun k hk => ?_
    rw [hi, some.injEq] at hk
    exact hk ▸ hversion ▸ hnewer j rfl
  · rintro _ ⟨⟩
    exact hhandle.trans (h.handle hnone i hi)
  · rintro _ ⟨⟩ heq
    exact hstate hsome (hversion.symm.trans heq)
  · rintro _ ⟨⟩ hcompleted
    rw [hversion]
    exact htaken hnone hcompleted

end AccountRow.Told

end

lemma told_of_unsent (hunsent : ∀ o, ¬ offered o)
    (hheld : held.value = desired ∨ a.provisioningWorkflowID.isSome ∧ held.value = none) :
    a.Told desired none held offered :=
  ⟨nofun, nofun, fun o ho => absurd ho (hunsent o), fun o ho => absurd ho (hunsent o), nofun, nofun,
    fun _ => hheld, nofun⟩

lemma AccountRow.Told.value_held (h : a.Told desired intent held offered)
    (hnone : a.provisioningWorkflowID = none)
    (hsettled : ∀ i, intent = some i → i.state ≠ .pending) : held.value = desired := by
  cases hintent : intent with
  | none =>
    refine (h.unasked hintent).resolve_right fun hprovisioned => ?_
    rw [hnone] at hprovisioned
    exact nomatch hprovisioned.1
  | some i =>
    refine (h.completed hnone i hintent ?_).1
    cases hstate : i.state with
    | pending => exact absurd hstate (hsettled i hintent)
    | completed => rfl

end Told

/-! ## The invariant -/

def Offered (sent : List Command) (node : NodeID) (provider : Provider)
    (o : Versioned (Option String)) : Prop :=
  ∃ c ∈ sent, c.node = node ∧ c.request.identity provider = some o

structure AccountRow.Known (oauth : Subjects) (sent : List Command) (node : NodeID)
    (a : AccountRow) : Prop where
  free : a.status = .active ∨ a.status = .conflict → a.provisioningWorkflowID = none
  subjects : ∀ provider subject, a.oauthSubjects.get provider = some subject →
    oauth.get provider = some subject
  delivered : ∀ c ∈ sent, c.node = node → ∀ provider subject present,
    c.request = .setOAuthIdentity provider subject present a.accountVersion →
    a.provisioningWorkflowID = none

/-- What is kept about an account with the row `a`, when the node has the identities `held`. -/
def System.Informs (s : System) (node : NodeID) (held : Provider → Versioned (Option String))
    (a : AccountRow) : Prop :=
  a.Known s.rows.oauth s.sent node ∧ ∀ provider, a.Told (s.rows.oauth.get provider)
    ((s.rows.syncs provider).get? node) (held provider) (Offered s.sent node provider)

structure System.Identified (s : System) : Prop where
  known : ∀ node a, s.rows.accounts.get? node = some a → a.Known s.rows.oauth s.sent node
  told : ∀ node a, s.rows.accounts.get? node = some a → ∀ provider,
    a.Told (s.rows.oauth.get provider) ((s.rows.syncs provider).get? node)
      ((s.nodes node a.localHandle).identities provider) (Offered s.sent node provider)
  intent : ∀ provider node i, (s.rows.syncs provider).get? node = some i →
    ∃ a, s.rows.accounts.get? node = some a
  source : ∀ c, (c, .ok) ∈ s.answers → ∀ provider o, c.request.identity provider = some o →
    Offered s.sent c.node provider ((s.nodes c.node c.handle).identities provider) ∧
      o.version ≤ ((s.nodes c.node c.handle).identities provider).version
  growing : s.sent.Pairwise fun later earlier => later.node = earlier.node → ∀ provider o o',
    later.request.identity provider = some o → earlier.request.identity provider = some o' →
    o'.value ≠ o.value → o'.version < o.version

/-! ## Transactions -/

section Rewrite

variable {r r' : Rows} {t : Transaction} {node : NodeID} {a a' : AccountRow}

def Rows.changeIdentity (r : Rows) (provider : Provider) (subject : String) (present : Bool)
    (now : Time) : Rows :=
  stageOAuthIdentitySyncs provider subject present now { r with
    oauth := r.oauth.set provider (if present then some subject else none)
    accounts := r.accounts.mapRows fun _ a =>
      a.setSubject provider (if present then some subject else none) now }

lemma perform_identities (h : r.perform t = some r') :
    (t.changesOAuth = false ∧ r'.oauth = r.oauth ∧ r'.syncs = r.syncs) ∨
    (∃ now, t = .reconcileOAuthIdentitySyncIntents now ∧
      r' = reconcileOAuthIdentitySyncIntents now r) ∨
    (t.imports = none ∧ ∃ provider subject present now,
      r' = r.changeIdentity provider subject present now) := by
  cases t with
  | reconcileOAuthIdentitySyncIntents now =>
    cases h
    exact .inr (.inl ⟨now, rfl, rfl⟩)
  | bindOAuthIdentity provider subject now =>
    obtain ⟨-, rfl⟩ := of_guarded h
    exact .inr (.inr ⟨rfl, provider, subject, true, now, rfl⟩)
  | unbindOAuthIdentity provider now =>
    dsimp only [Rows.perform, unbindOAuthIdentity] at h
    split at h
    · cases h
    next subject _ =>
      obtain ⟨-, rfl⟩ := of_guarded h
      exact .inr (.inr ⟨rfl, provider, subject, false, now, rfl⟩)
  | _ => exact .inl ⟨rfl, (perform_spares h).oauth rfl, (perform_spares h).syncs rfl nofun⟩

lemma follows_status (a : AccountRow) (status : Store.AccountStatus) (now : Time) :
    a.Follows { a with status, updatedAt := now } := ⟨rfl, Nat.le_refl _, rfl⟩

namespace Transaction.Rewrites

variable (h : t.Rewrites r node a a')
include h

lemma follows (hoauth : t.changesOAuth = false) : a.Follows a' ∨
    ∃ workflowID w now, t = .failRestoreWorkflow workflowID now ∧
      r.workflows.get? workflowID = some w ∧ node = w.targetNodeID ∧ a.status = .pending ∧
      a' = { a with status := .error, provisioningWorkflowID := none, updatedAt := now } := by
  cases h with
  | staged | dropped => exact .inl ⟨rfl, Nat.le_succ _, rfl⟩
  | identity _ changes => exact nomatch hoauth.symm.trans changes
  | givenUp fails found target pending =>
    exact .inr ⟨_, _, _, fails, found, target, pending, rfl⟩
  | _ => exact .inl ⟨rfl, Nat.le_refl _, rfl⟩

lemma oauthSubjects (hoauth : t.changesOAuth = false) : a'.oauthSubjects = a.oauthSubjects := by
  cases h with
  | identity _ changes => exact nomatch hoauth.symm.trans changes
  | _ => rfl

lemma free (hperform : r.perform t = some r') (ha : r.accounts.get? node = some a)
    (hfree : a.status = .active ∨ a.status = .conflict → a.provisioningWorkflowID = none)
    (hfreeze : ∀ imported handle relink otherReplicas now,
      t = .linkImportCandidate imported handle relink otherReplicas now →
      r.otherData imported otherReplicas → a.provisioningWorkflowID = none)
    (hstatus : a'.status = .active ∨ a'.status = .conflict) : a'.provisioningWorkflowID = none := by
  cases h with
  | staged | givenUp | superseded => exact hstatus.elim nofun nofun
  | activated _ was => exact hfree (was.symm.imp_left (active_of_switches hperform · ha))
  | frozen links other => exact hfreeze _ _ _ _ _ links other
  | _ => exact hfree hstatus

end Transaction.Rewrites

lemma attunes_reconciled (h : r.attunes node a) (provider : Provider) :
    a.provisioningWorkflowID = none ∨ (∀ i, (r.syncs provider).get? node = some i →
        i.accountVersion = a.accountVersion ∧ i.localHandle = a.localHandle) ∧
      ((r.syncs provider).get? node = none → r.oauth.get provider = none) := by
  simp only [Rows.attunes, Bool.and_eq_true, Bool.or_eq_true,
    isNone_iff_eq_none] at h
  refine h.imp_right fun hboth => ?_
  have hreconciled : r.reconciled node a provider := by
    cases provider
    · exact hboth.1
    · exact hboth.2
  unfold Rows.reconciled at hreconciled
  split at hreconciled
  next hnone =>
    rw [hnone]
    exact ⟨nofun, fun _ => isNone_iff_eq_none.mp hreconciled⟩
  next i hi =>
    rw [hi]
    refine ⟨?_, nofun⟩
    rintro _ ⟨⟩
    simpa only [Bool.and_eq_true, Bool.or_eq_true, Bool.not_eq_true', decide_eq_true_eq]
      using hreconciled

lemma knows_identity {known : LocalAccount} (h : r.knows known) (provider : Provider) :
    (known.identities provider).value = r.oauth.get provider := by
  simp only [Rows.knows, Bool.and_eq_true,
    decide_eq_true_eq] at h
  cases provider
  · exact h.1
  · exact h.2

lemma keepsIdentities_import {known : LocalAccount} (hkeeps : t.keepsIdentities r known)
    {handle : String} (himports : t.imports = some (node, handle))
    (hnone : r.accounts.get? node = none) : r.knows known := by
  cases t with
  | linkImportCandidate =>
    obtain ⟨rfl, rfl⟩ := himports
    simp only [Transaction.keepsIdentities, hnone, isSome_none, Bool.false_or,
      Bool.and_eq_true] at hkeeps
    exact hkeeps.1
  | completeAccountImportClaim => exact hkeeps
  | _ => cases himports

lemma written_subjects {imported : NodeID × String} (hwritten : t.written r = some (node, a))
    (himports : t.imports = some imported) (provider : Provider) (subject : String)
    (h : a.oauthSubjects.get provider = some subject) : r.oauth.get provider = some subject := by
  have hempty (h : Subjects.empty.get provider = some subject) :
      r.oauth.get provider = some subject := by
    rw [Subjects.get_empty] at h
    cases h
  cases t with
  | linkImportCandidate =>
    obtain ⟨-, -, rfl⟩ := of_guarded hwritten
    split at h
    · exact hempty h
    · exact h
  | completeAccountImportClaim =>
    obtain ⟨-, rfl⟩ := hwritten
    exact hempty h
  | _ => cases himports

lemma AccountRow.Known.after {oauth oauth' : Subjects} (h : a.Known oauth sent node)
    (hfree : a'.status = .active ∨ a'.status = .conflict → a'.provisioningWorkflowID = none)
    (hsubjects : ∀ provider subject, a'.oauthSubjects.get provider = some subject →
      oauth'.get provider = some subject) (hversion : a.accountVersion ≤ a'.accountVersion)
    (hnone : a.accountVersion = a'.accountVersion → a.provisioningWorkflowID = none →
      a'.provisioningWorkflowID = none) (hbounded : ∀ c ∈ sent, c.node = node → ∀ provider o,
      c.request.identity provider = some o → o.version ≤ a.accountVersion) :
    a'.Known oauth' sent node := by
  refine ⟨hfree, hsubjects, fun c hc hnode provider subject present hrequest => ?_⟩
  have hle := hbounded c hc hnode provider
    ⟨a'.accountVersion, if present then some subject else none⟩
    (by rw [hrequest]; exact if_pos rfl)
  dsimp only at hle
  have heq : a.accountVersion = a'.accountVersion := by omega
  refine hnone heq (h.delivered c hc hnode provider subject present ?_)
  rwa [heq]

end Rewrite

variable {s : System} {a : AccountRow} {node : NodeID} {t : Transaction} {known : LocalAccount}
  {rows : Rows} {provider : Provider} {c : Command} {o : Versioned (Option String)}
  {answer : Answer} {now : Time}

lemma unoffered (haddressed : s.Addressed) (hnone : s.rows.accounts.get? node = none)
    (provider : Provider) (o : Versioned (Option String)) : ¬ Offered s.sent node provider o := by
  rintro ⟨c, hc, rfl, -⟩
  obtain ⟨a, ha, -⟩ := haddressed.row c hc
  cases hnone.symm.trans ha

lemma provisioned_subset (s : Subjects) (provider : Provider) (subject : String)
    (h : s.provisioned.get provider = some subject) : s.get provider = some subject := by
  unfold Subjects.provisioned at h
  cases hdiscord : s.discord <;> rw [hdiscord] at h <;> cases provider <;>
    simp_all [Subjects.get]

lemma AccountRow.Told.reconcile
    {held : Versioned (Option String)} (ha : s.rows.accounts.get? node = some a)
    (h : a.Told (s.rows.oauth.get provider) ((s.rows.syncs provider).get? node) held
      (Offered s.sent node provider)) (now : Time) : a.Told (s.rows.oauth.get provider)
      (((reconcileOAuthIdentitySyncIntents now s.rows).syncs provider).get? node) held
      (Offered s.sent node provider) := by
  have hrepair (i : OAuthIdentitySync) : _ → _ → _ → _ → a.Told _ (some i) held _ :=
    told_of_pending h.bounded fun o ho hle =>
      h.newest o ho fun j hj => Nat.le_trans (h.version j hj) hle
  simp only [reconcileOAuthIdentitySyncIntents]
  cases hsubject : s.rows.oauth.get provider with
  | some subject =>
    rw [hsubject] at h hrepair
    rw [get?_fill, ha, map_some, some_or]
    cases hi : (s.rows.syncs provider).get? node with
    | none => exact hrepair _ rfl rfl rfl rfl
    | some i =>
      rw [hi] at h
      unfold repairedSync
      dsimp only
      split
      · exact h
      · exact hrepair _ rfl rfl rfl rfl
  | none =>
    rw [hsubject] at h hrepair
    rw [get?_mapRows, ha]
    cases hi : (s.rows.syncs provider).get? node with
    | none =>
      rwa [hi] at h
    | some i =>
      rw [hi] at h
      rw [map_some]
      unfold advancedRemoval
      dsimp only
      split
      next hremoval => exact hrepair _ (by simp [OAuthIdentitySync.desired, hremoval.1]) rfl rfl rfl
      next => exact h

namespace System.Identified

variable (hs : s.Identified)
include hs

lemma bounded (ha : s.rows.accounts.get? node = some a) :
    ∀ c ∈ s.sent, c.node = node → ∀ provider o, c.request.identity provider = some o →
      o.version ≤ a.accountVersion :=
  fun c hc hnode provider o ho => (hs.told node a ha provider).bounded o ⟨c, hc, hnode, ho⟩

lemma row_after (h : s.rows.perform t = some rows) (hkeeps : t.keepsIdentities s.rows known)
    (hoauth : t.changesOAuth = false) (ha : s.rows.accounts.get? node = some a) :
    s.Informs node (s.nodes node a.localHandle).identities (t.rewrite s.rows node a) := by
  have hknown := hs.known node a ha
  have hrewrites := t.rewrites s.rows node a
  have hfree := hrewrites.free h ha hknown.free
    fun imported handle relink otherReplicas now ht hother => by
      subst ht
      simp only [Transaction.keepsIdentities, hother, Bool.not_true, Bool.false_or,
        Bool.and_eq_true, Bool.or_eq_true, Bool.not_eq_true'] at hkeeps
      exact provisioning_eq_false hkeeps.2 ha
  rcases hrewrites.follows hoauth with
    hfollows | ⟨workflowID, w, now, rfl, hw, rfl, hpending, hgiven⟩
  · refine ⟨hknown.after hfree ?_ hfollows.accountVersion ?_ (hs.bounded ha), fun provider =>
      (hs.told node a ha provider).follow hfollows⟩
    · rw [hrewrites.oauthSubjects hoauth]
      exact hknown.subjects
    · rw [hfollows.provisioningWorkflowID]
      exact fun _ => id
  · simp only [Transaction.keepsIdentities, hw, Option.all_some, ha, hpending, ne_eq,
      not_true_eq_false, decide_false, Bool.false_or] at hkeeps
    rw [hgiven] at hfree ⊢
    exact ⟨hknown.after hfree hknown.subjects (Nat.le_refl _) (fun _ _ => rfl) (hs.bounded ha),
      fun provider => (hs.told _ a ha provider).release (attunes_reconciled hkeeps provider)
        rfl rfl rfl⟩

lemma no_intent (hnone : s.rows.accounts.get? node = none) (provider : Provider) :
    (s.rows.syncs provider).get? node = none := by
  cases hi : (s.rows.syncs provider).get? node with
  | none => rfl
  | some i =>
    obtain ⟨a, ha⟩ := hs.intent provider node i hi
    cases hnone.symm.trans ha

lemma prepared (haddressed : s.Addressed) (workflowID : UUID) (now : Time) (node : NodeID) :
    s.Informs node (s.nodes node s.rows.username).identities
      (preparedAccount workflowID now s.rows (s.rows.accounts.get? node)) := by
  have hsubjects (old : Option AccountRow) (provider : Provider) (subject : String)
      (h : (preparedAccount workflowID now s.rows old).oauthSubjects.get provider = some subject) :
      s.rows.oauth.get provider = some subject := by
    simp only [preparedAccount] at h
    split at h
    · rw [Subjects.get_empty] at h
      cases h
    · exact provisioned_subset _ _ _ h
  cases hold : s.rows.accounts.get? node with
  | none =>
    refine ⟨⟨fun hstatus => hstatus.elim nofun nofun, hsubjects none, fun c hc hnode => ?_⟩,
      fun provider => ?_⟩
    · obtain ⟨a, ha, -⟩ := haddressed.row c hc
      rw [hnode, hold] at ha
      cases ha
    · have hfresh := haddressed.untouched node fun a ha => by rw [hold] at ha; cases ha
      rw [hs.no_intent hold]
      refine told_of_unsent (unoffered haddressed hold provider) (.inr ⟨rfl, ?_⟩)
      rw [hfresh]
      rfl
  | some old =>
    refine ⟨(hs.known node old hold).after (fun hstatus => hstatus.elim nofun nofun)
      (hsubjects (some old)) (Nat.le_succ _) (fun heq => ?_) (hs.bounded hold), fun provider => ?_⟩
    · exact absurd heq (Nat.succ_ne_self _).symm
    · refine (hs.told node old hold provider).prepare (Nat.lt_succ_self _) rfl ?_
      by_cases hname : old.localHandle = s.rows.username
      · exact .inl (by rw [hname])
      have hfresh := haddressed.untouched node fun a ha => by
        rw [hold, some.injEq] at ha
        exact ha ▸ hname
      right
      rw [hfresh]
      rfl

lemma transact_quiet (haddressed : s.Addressed) (h : s.rows.perform t = some rows)
    (hkeeps : t.keepsIdentities s.rows known) (hchanges : t.changesOAuth = false)
    (hoauth : rows.oauth = s.rows.oauth) (hsyncs : rows.syncs = s.rows.syncs) :
    System.Identified { s with
      rows, handler
      nodes := importedNodes s.rows known s.nodes t, staged := nextStaged s.staged t } := by
  have hrow : ∀ node a', rows.accounts.get? node = some a' →
      s.Informs node (importedNodes s.rows known s.nodes t node a'.localHandle).identities a' := by
    intro node a' ha'
    rcases perform_row h ha' with ⟨a, ha, rfl⟩ | ⟨a, hwritten, rfl⟩
    · rw [importedNodes_of_row ha, localHandle_rewrite]
      exact hs.row_after h hkeeps hchanges ha
    rcases written_import h hwritten with
      ⟨workflowID, workflowType, now, rfl, rfl⟩ | ⟨hnone, himports, subjects, now, himported⟩
    · exact hs.prepared haddressed workflowID now node
    have hknows := keepsIdentities_import hkeeps himports hnone
    have hrewrites := t.rewrites s.rows node a
    have hfollows := (hrewrites.follows hchanges).resolve_right <| by
      rintro ⟨_, _, _, rfl, -⟩
      cases himports
    have hfree : a.provisioningWorkflowID = none := by rw [himported]; rfl
    refine ⟨⟨fun _ => hfollows.provisioningWorkflowID.trans hfree, ?_, fun c hc hnode => ?_⟩,
      fun provider => ?_⟩
    · rw [hrewrites.oauthSubjects hchanges]
      exact written_subjects hwritten himports
    · obtain ⟨b, hb, -⟩ := haddressed.row c hc
      rw [hnode, hnone] at hb
      cases hb
    · rw [hs.no_intent hnone, localHandle_rewrite, importedNodes_apply, if_pos ⟨himports, hnone⟩]
      exact told_of_unsent (unoffered haddressed hnone provider)
        (.inl (knows_identity hknows provider))
  refine ⟨fun node a' ha' => ?_, fun node a' ha' provider => ?_, fun provider node i hi => ?_,
    fun c hc provider o ho => ?_, hs.growing⟩
  · rw [hoauth]
    exact (hrow node a' ha').1
  · rw [hoauth, hsyncs]
    exact (hrow node a' ha').2 provider
  · rw [hsyncs] at hi
    obtain ⟨a, ha⟩ := hs.intent provider node i hi
    obtain ⟨a', ha', -⟩ := account_kept h ha
    exact ⟨a', ha'⟩
  · obtain ⟨a, ha, -⟩ := haddressed.row c (haddressed.sent c .ok hc)
    dsimp only
    rw [importedNodes_of_row ha]
    exact hs.source c hc provider o ho

lemma reconcile (handler : Option Material) (staged : Option Material) (now : Time) :
    System.Identified { s with
      rows := reconcileOAuthIdentitySyncIntents now s.rows, handler, staged } := by
  refine ⟨hs.known, fun node a ha provider => ?_, fun provider node i hi => ?_, hs.source,
    hs.growing⟩
  · have ha : s.rows.accounts.get? node = some a := ha
    have htold := (hs.told node a ha provider).reconcile ha now
    exact htold
  · simp only [reconcileOAuthIdentitySyncIntents] at hi
    split at hi
    · rw [get?_fill] at hi
      cases ha : s.rows.accounts.get? node with
      | some a => exact ⟨a, ha⟩
      | none =>
        rw [ha, map_none, none_or] at hi
        exact ha ▸ hs.intent provider node i hi
    · rw [get?_mapRows] at hi
      obtain ⟨old, hold, -⟩ := map_eq_some_iff.mp hi
      exact hs.intent provider node old hold

lemma change (handler : Option Material) (staged : Option Material) (provider : Provider)
    (subject : String) (present : Bool) (now : Time) : System.Identified { s with
      rows := s.rows.changeIdentity provider subject present now, handler, staged } := by
  have hrow {node a'}
      (ha' : (s.rows.changeIdentity provider subject present now).accounts.get? node = some a') :
      ∃ a, s.rows.accounts.get? node = some a ∧
        a' = a.setSubject provider (if present then some subject else none) now := by
    have ha' : (s.rows.accounts.mapRows _).get? node = some a' := ha'
    rw [get?_mapRows] at ha'
    obtain ⟨a, ha, heq⟩ := map_eq_some_iff.mp ha'
    exact ⟨a, ha, heq.symm⟩
  refine ⟨fun node a' ha' => ?_, fun node a' ha' p => ?_, fun p node i hi => ?_, hs.source,
    hs.growing⟩
  · obtain ⟨a, ha, rfl⟩ := hrow ha'
    refine (hs.known node a ha).after (hs.known node a ha).free (fun p x hx => ?_) (Nat.le_succ _)
      (fun heq => absurd heq (Nat.succ_ne_self _).symm) (hs.bounded ha)
    by_cases hp : p = provider
    · subst hp
      simp only [AccountRow.setSubject, Subjects.get_set_self] at hx
      exact (Subjects.get_set_self ..).trans hx
    · simp only [AccountRow.setSubject, Subjects.get_set_of_ne hp] at hx
      exact (Subjects.get_set_of_ne hp).trans ((hs.known node a ha).subjects p x hx)
  · obtain ⟨a, ha, rfl⟩ := hrow ha'
    simp only [Rows.changeIdentity, stageOAuthIdentitySyncs]
    by_cases hp : p = provider
    · subst hp
      rw [if_pos rfl, get?_fill, get?_mapRows, ha, map_some, map_some, some_or,
        Subjects.get_set_self]
      have hbounded := (hs.told node a ha p).bounded
      exact told_of_pending (fun o ho => Nat.le_succ_of_le (hbounded o ho))
        (fun o ho hle => absurd (hbounded o ho) (Nat.not_le.mpr hle)) rfl rfl rfl rfl
    · rw [if_neg hp, Subjects.get_set_of_ne hp]
      exact (hs.told node a ha p).follow ⟨rfl, Nat.le_succ _, rfl⟩
  · simp only [Rows.changeIdentity, stageOAuthIdentitySyncs] at hi
    have hmapped {a} (ha : s.rows.accounts.get? node = some a) :
        ∃ a', (s.rows.changeIdentity provider subject present now).accounts.get? node =
        some a' := by
      refine ⟨a.setSubject provider (if present then some subject else none) now, ?_⟩
      exact (get?_mapRows _ _ _).trans (by rw [ha]; rfl)
    split at hi
    · rw [get?_fill, get?_mapRows] at hi
      cases ha : s.rows.accounts.get? node with
      | some a => exact hmapped ha
      | none =>
        rw [ha, map_none, map_none, none_or] at hi
        obtain ⟨a, ha'⟩ := hs.intent p node i hi
        exact hmapped ha'
    · obtain ⟨a, ha⟩ := hs.intent p node i hi
      exact hmapped ha

lemma transact (haddressed : s.Addressed) (h : s.rows.perform t = some rows)
    (hkeeps : t.keepsIdentities s.rows known) :
    System.Identified { s with
      rows, handler
      nodes := importedNodes s.rows known s.nodes t, staged := nextStaged s.staged t } := by
  rcases perform_identities h with ⟨hchanges, hoauth, hsyncs⟩ | ⟨now, rfl, rfl⟩ |
    ⟨himports, provider, subject, present, now, rfl⟩
  · exact hs.transact_quiet haddressed h hkeeps hchanges hoauth hsyncs
  · exact hs.reconcile handler _ now
  · have hnodes : importedNodes s.rows known s.nodes t = s.nodes := by
      rw [importedNodes, himports]
    rw [hnodes]
    exact hs.change handler _ provider subject present now

end System.Identified

/-! ## Commands -/

lemma Offered.cons (h : Offered (c :: sent) node provider o) :
    Offered sent node provider o ∨ c.node = node ∧ c.request.identity provider = some o := by
  obtain ⟨c', hc', hnode, ho⟩ := h
  rcases List.mem_cons.mp hc' with rfl | hc'
  · exact .inr ⟨hnode, ho⟩
  · exact .inl ⟨c', hc', hnode, ho⟩

lemma Offered.weaken (h : Offered sent node provider o) (c : Command) :
    Offered (c :: sent) node provider o := by
  obtain ⟨c', hc', hoffer⟩ := h
  exact ⟨c', List.mem_cons_of_mem c hc', hoffer⟩

lemma identities_apply (account : LocalAccount) (request : Request) (provider : Provider) :
    (account.apply request).identities provider =
      ((request.identity provider).map (account.identities provider).offer).getD
        (account.identities provider) := rfl

lemma freezes_of_keepsIdentities {r : Rows}
    (h : c.keepsIdentities r answer) : c.freezes r answer = false := by
  obtain ⟨target, handle, request⟩ := c
  cases request with
  | setOAuthIdentity => simpa only [Command.keepsIdentities, Bool.not_eq_true'] using h
  | _ => rfl

lemma get?_syncs_record {r : Rows}
    (hfreezes : c.freezes r answer = false) (provider : Provider) (node : NodeID) :
    ((r.record c answer now).syncs provider).get? node = ((r.syncs provider).get? node).map
      fun i => match c.request with
        | .setOAuthIdentity p subject present version =>
          if provider = p ∧ node = c.node ∧ i.isFor c.handle subject version present then
            { i with state := if answer = .ok then .completed else .pending, updatedAt := now }
          else i
        | _ => i := by
  have hid : ∀ o : Option OAuthIdentitySync, o = o.map fun i => i :=
    fun o => (congrFun Option.map_id o).symm
  obtain ⟨target, handle, request⟩ := c
  cases request with
  | setPassword password =>
    obtain ⟨version, material⟩ := password
    cases material with
    | none => exact hid _
    | some material =>
      simp only [Rows.record]
      split
      · unfold activateNodeAccount
        split <;> exact hid _
      · exact hid _
  | setOAuthIdentity p subject present version =>
    have hrecord : (r.record ⟨target, handle, .setOAuthIdentity p subject present version⟩ answer
        now).syncs = (endOAuthIdentitySync target p handle subject version present
          (answer = .ok) now r).syncs := by
      simp only [Rows.record]
      split
      next hconflict =>
        subst hconflict
        unfold freezeOAuthIdentitySyncConflict
        rw [if_neg]
        · rfl
        · simpa only [Command.freezes, decide_true, Bool.true_and, Bool.and_eq_false_imp,
            decide_eq_true_eq, not_and, Bool.not_eq_true] using hfreezes
      next => rfl
    rw [hrecord]
    simp only [endOAuthIdentitySync]
    by_cases hp : provider = p
    · simp only [hp, if_true, true_and, get?_update, Bool.and_eq_true,
        decide_eq_true_eq]
    · simp only [hp, if_false, false_and]
      exact hid _
  | restoreUserAccount =>
    simp only [Rows.record]
    split
    · unfold completeWorkflowTargetAccountProvision
      split
      · exact hid _
      · split <;> exact hid _
    · exact hid _

namespace System.Identified

variable (hs : s.Identified)
include hs

lemma sends (h : Sends s sending c) (ho : c.request.identity provider = some o)
    (ha : s.rows.accounts.get? c.node = some a) :
    o.value = s.rows.oauth.get provider ∧ o.version = a.accountVersion := by
  cases h with
  | password | removal => cases ho
  | identity row intent active version current =>
    obtain rfl := mem_unique row ha
    obtain ⟨rfl, rfl⟩ := of_guarded ho
    exact ⟨current.symm, rfl⟩
  | account workflow live row =>
    obtain rfl := mem_unique row ha
    simp only [Request.identity, bind_eq_some_iff, ite_none_right_eq_some, some.injEq] at ho
    obtain ⟨⟨p, subject⟩, hidentity, rfl, rfl⟩ := ho
    refine ⟨((hs.known _ _ row).subjects provider subject ?_).symm, rfl⟩
    unfold AccountRow.provisionedIdentity at hidentity
    split at hidentity
    · cases hidentity
    split at hidentity
    next hdiscord =>
      obtain ⟨rfl, rfl⟩ := Prod.mk.inj (some.inj hidentity)
      exact hdiscord
    next =>
      obtain ⟨x, hx, heq⟩ := map_eq_some_iff.mp hidentity
      obtain ⟨rfl, rfl⟩ := Prod.mk.inj heq
      exact hx

lemma send (haddressed : s.Addressed) (h : Sends s sending c) :
    System.Identified { s with sent := c :: s.sent, waiting := c :: s.waiting } := by
  refine ⟨fun node a ha => ?_, fun node a ha provider => ?_, hs.intent,
    fun c' hc' provider o ho => ?_,
    ?_⟩
  · refine ⟨(hs.known node a ha).free, (hs.known node a ha).subjects,
      fun c' hc' hnode provider subject present hrequest => ?_⟩
    rcases List.mem_cons.mp hc' with rfl | hc'
    · cases h with
      | identity row intent active =>
        subst hnode
        obtain rfl := mem_unique row ha
        exact (hs.known _ _ row).free (.inl active)
      | _ => cases hrequest
    · exact (hs.known node a ha).delivered c' hc' hnode provider subject present hrequest
  · refine (hs.told node a ha provider).send fun o ho => ?_
    rcases ho.cons with hold | ⟨hnode, hnew⟩
    · exact .inl hold
    · exact .inr (hs.sends h hnew (hnode ▸ ha))
  · obtain ⟨hoffered, hle⟩ := hs.source c' hc' provider o ho
    exact ⟨hoffered.weaken c, hle⟩
  · refine List.pairwise_cons.mpr
      ⟨fun earlier hearlier hnode provider o o' ho ho' hne => ?_, hs.growing⟩
    obtain ⟨a, ha, -⟩ := haddressed.row earlier hearlier
    obtain ⟨hvalue, hversion⟩ := hs.sends h ho (hnode ▸ ha)
    have htold := hs.told earlier.node a ha provider
    have hoffered : Offered s.sent earlier.node provider o' := ⟨earlier, hearlier, rfl, ho'⟩
    -- Something else than the identity of the user was offered before the intent was staged.
    by_contra hge
    refine hne ((htold.newest o' hoffered fun i hi => ?_).trans hvalue.symm)
    have := htold.version i hi
    omega

lemma executed (hc : c ∈ s.sent) : (s.executed c).Identified := by
  refine ⟨hs.known, fun node a ha provider => ?_, hs.intent, fun c' hc' provider o ho => ?_,
    hs.growing⟩
  · simp only [System.executed]
    have htold := hs.told node a ha provider
    split
    next hcommand =>
      rw [identities_apply]
      cases ho : c.request.identity provider with
      | none => exact htold
      | some o => exact htold.offer ⟨c, hc, hcommand.1.symm, ho⟩
    next => exact htold
  · simp only [System.executed] at hc' ⊢
    rcases List.mem_cons.mp hc' with heq | hc'
    · obtain ⟨rfl, hok⟩ := Prod.mk.inj heq
      have hacknowledged := acknowledges_identity (acknowledges_of_answer hok.symm) ho
      have htaken := Versioned.offer_of_acknowledges hacknowledged
      rw [if_pos ⟨rfl, rfl⟩, identities_apply, ho, map_some, getD_some, htaken]
      exact ⟨⟨c', hc, rfl, ho⟩, Nat.le_refl _⟩
    · obtain ⟨hoffered, hle⟩ := hs.source c' hc' provider o ho
      split
      next hcommand =>
        rw [identities_apply]
        cases ho' : c.request.identity provider with
        | none => exact ⟨hoffered, hle⟩
        | some o' =>
          rw [map_some, getD_some]
          by_cases hlt : ((s.nodes c'.node c'.handle).identities provider).version < o'.version
          · rw [Versioned.offer_of_lt hlt]
            exact ⟨⟨c, hc, hcommand.1.symm, ho'⟩, by omega⟩
          · rw [Versioned.offer_of_le (Nat.not_lt.mp hlt)]
            exact ⟨hoffered, hle⟩
      next => exact ⟨hoffered, hle⟩

lemma row_recorded (haddressed : s.Addressed) (hanswered : s.answered c answer)
    (hkeeps : c.keepsIdentities s.rows answer) (ha : s.rows.accounts.get? node = some a)
    (h : c.Rewrites s.rows answer now node a a') :
    s.Informs node (s.nodes node a.localHandle).identities a' := by
  have hknown := hs.known node a ha
  have hstatus (status : Store.AccountStatus)
      (hfree : status = .active ∨ status = .conflict → a.provisioningWorkflowID = none) :
      s.Informs node (s.nodes node a.localHandle).identities { a with status, updatedAt := now } :=
    ⟨⟨hfree, hknown.subjects, hknown.delivered⟩,
      fun provider => (hs.told node a ha provider).follow (follows_status a status now)⟩
  cases h with
  | same => exact ⟨hknown, hs.told node a ha⟩
  | activated hok hstaged =>
    refine hstatus .active fun _ => ?_
    simpa only [Command.keepsIdentities, ha, Option.all_some, hok, ne_eq, not_true_eq_false,
      decide_false, hstaged, Bool.not_true, Bool.false_or, isNone_iff_eq_none] using hkeeps
  | failed => exact hstatus .error fun hfree => hfree.elim nofun nofun
  | frozen hfreezes _ => exact nomatch (freezes_of_keepsIdentities hkeeps).symm.trans hfreezes
  | provisioned hprovisions hrequest =>
    have hfacts := hprovisions
    simp only [Command.provisions, hrequest, Bool.and_eq_true,
      decide_eq_true_eq, Option.any_eq_true] at hfacts
    obtain ⟨rfl, w, hw, ⟨-, hnode⟩, -⟩ := hfacts
    have hsent := haddressed.sent _ _ (mem_answers_of_ok hanswered)
    obtain ⟨w', hw', htarget⟩ := haddressed.target _ hsent _ _ _ _ hrequest
    rw [hw, some.injEq] at hw'
    subst hw'
    obtain rfl := htarget.symm.trans hnode
    have hattunes := hkeeps
    simp only [Command.keepsIdentities, hrequest, ha, Option.all_some, hprovisions, Bool.not_true,
      Bool.false_or] at hattunes
    exact ⟨hknown.after (fun _ => rfl) hknown.subjects (Nat.le_refl _) (fun _ _ => rfl)
      (hs.bounded ha), fun provider => (hs.told _ a ha provider).release
        (attunes_reconciled hattunes provider) rfl rfl rfl⟩

lemma told_recorded (haddressed : s.Addressed) (hanswered : s.answered c answer)
    (ha : s.rows.accounts.get? c.node = some a) (hi : (s.rows.syncs provider).get? c.node = some i)
    {subject : String} {present : Bool} {version : ℕ}
    (hrequest : c.request = .setOAuthIdentity provider subject present version)
    (hfor : i.isFor c.handle subject version present) (now : Time) :
    a.Told (s.rows.oauth.get provider)
      (some { i with state := if answer = .ok then .completed else .pending, updatedAt := now })
      ((s.nodes c.node a.localHandle).identities provider) (Offered s.sent c.node provider) := by
  have htold := hs.told c.node a ha provider
  simp only [OAuthIdentitySync.isFor, Bool.and_eq_true,
    decide_eq_true_eq] at hfor
  obtain ⟨⟨⟨⟨-, hhandle⟩, hversion⟩, -⟩, -⟩ := hfor
  refine htold.finish hi rfl rfl rfl (fun hsome heq => ?_) fun hnone hcompleted => ?_
  · by_cases hok : answer = .ok
    · subst hok
      have hsent := haddressed.sent _ _ (mem_answers_of_ok hanswered)
      rw [← hversion, heq] at hrequest
      rw [(hs.known c.node a ha).delivered c hsent rfl provider subject present hrequest] at hsome
      cases hsome
    · exact if_neg hok
  · have hok : answer = .ok := by
      by_contra hfailed
      rw [if_neg hfailed] at hcompleted
      cases hcompleted
    subst hok
    obtain ⟨hoffered, hle⟩ := hs.source c (mem_answers_of_ok hanswered) provider
      ⟨version, if present then some subject else none⟩ (by rw [hrequest]; exact if_pos rfl)
    rw [← hhandle, htold.handle hnone i hi] at hoffered hle
    dsimp only at hle
    refine ⟨htold.newest _ hoffered fun j hj => ?_, by omega⟩
    obtain rfl := mem_unique hi hj
    omega

lemma finish (haddressed : s.Addressed) (hanswered : s.answered c answer)
    (hkeeps : c.keepsIdentities s.rows answer) : System.Identified
      { s with rows := s.rows.record c answer now, waiting := s.waiting.erase c } := by
  have hfreezes := freezes_of_keepsIdentities hkeeps
  obtain ⟨-, -, hoauth, -⟩ := record_frame s.rows c answer now
  refine ⟨fun node a' ha' => ?_, fun node a' ha' provider => ?_, fun provider node i hi => ?_,
    hs.source, hs.growing⟩
  · obtain ⟨a, ha, hrewrites⟩ := of_get?_record ha'
    rw [hoauth]
    exact (hs.row_recorded haddressed hanswered hkeeps ha hrewrites).1
  · obtain ⟨a, ha, hrewrites⟩ := of_get?_record ha'
    have htold : a'.Told _ _ _ _ :=
      (hs.row_recorded haddressed hanswered hkeeps ha hrewrites).2 provider
    rw [hoauth, get?_syncs_record hfreezes, hrewrites.restates.localHandle]
    cases hi : (s.rows.syncs provider).get? node with
    | none =>
      rwa [hi] at htold
    | some i =>
      rw [hi] at htold
      rw [map_some]
      split
      next p subject present version hrequest =>
        split
        next hfor =>
          obtain ⟨rfl, hnode, hfor⟩ := hfor
          cases hrewrites with
          | same =>
            subst hnode
            exact hs.told_recorded haddressed hanswered ha hi hrequest hfor now
          | frozen hfrozen => exact nomatch hfreezes.symm.trans hfrozen
          | provisioned _ hrestore => cases hrequest.symm.trans hrestore
          | _ => cases hrequest
        next => exact htold
      next => exact htold
  · rw [get?_syncs_record hfreezes] at hi
    obtain ⟨old, hold, -⟩ := map_eq_some_iff.mp hi
    obtain ⟨a, ha⟩ := hs.intent provider node old hold
    refine ⟨c.rewrite s.rows answer now node a, ?_⟩
    rw [get?_record, ha, map_some]

lemma removalsYield : s.RemovalsYield := by
  refine hs.growing.imp fun {later earlier} hgrowing hnode hhandle hok provider bound removed
    hbound hsome hremoved hnone => ?_
  have hlt : removed.version < bound.version := by
    refine hgrowing hnode provider bound removed hbound hremoved fun heq => ?_
    rw [← heq, hnone] at hsome
    cases hsome
  have hle := (hs.source later hok provider bound hbound).2
  rw [identities_apply, hremoved, map_some, getD_some]
  exact Versioned.offer_of_le (by omega)

end System.Identified

/-! ## Whole runs -/

lemma System.Identified.step {s' : System} {act : Act} (haddressed : s.Addressed)
    (hs : s.Identified) (hkeeps : keepsIdentities s act)
    (h : Convergence.step s act = some s') : s'.Identified := by
  cases stepped_of_step h with
  | transact _ hrows => exact hs.transact haddressed hrows hkeeps
  | send hc => exact hs.send haddressed (sends_of_command hc)
  | execute hc => exact hs.executed hc
  | finish _ hanswered => exact hs.finish haddressed hanswered hkeeps
  | releaseHandler => exact { hs with }

lemma registered_identified (username : String) (home : NodeID) (credential : Credential)
    (now : Time) : (registered username home credential now).Identified := by
  refine ⟨fun node a ha => ?_, fun node a ha provider => ?_, fun provider node i hi => ?_, nofun,
    .nil⟩
  · obtain ⟨-, rfl⟩ := of_get?_registeredRows ha
    exact ⟨fun _ => rfl, fun _ _ => id, nofun⟩
  · obtain ⟨rfl, rfl⟩ := of_get?_registeredRows ha
    have hunsent : ∀ o, ¬ Offered [] node provider o := by
      rintro o ⟨c, ⟨⟩, -⟩
    refine told_of_unsent hunsent (.inl ?_)
    simp only [registered, and_self, if_true]
    rfl
  · have hi : (∅ : Table NodeID OAuthIdentitySync).get? node = some i := hi
    cases hi

/-- **Accounts know the identities of their user.**  In a run whose steps all leave the identities
in order, an active account without pending intents knows exactly the Discord and LinuxDo identities
of the user; and a removal that arrives late does not undo a later bind. -/
theorem settled_accounts_know_identities {username : String} {home : NodeID}
    {credential : Credential} {start : Time} {acts : List Act} {s : System}
    (hrun : run step (registered username home credential start) acts = some s)
    (hmeets : Meets step (fun s act => keepsIdentities s act = true)
      (registered username home credential start) acts) : s.IdentitiesKnown ∧ s.RemovalsYield := by
  have hinv : s.Addressed ∧ s.Identified :=
    run_invariant_of_meets (P := fun s => s.Addressed ∧ s.Identified)
      (fun s act s' hs hkeeps h =>
        ⟨hs.1.step (Bool.and_eq_true_iff.mp hkeeps).1 h, hs.2.step hs.1 hkeeps h⟩)
      ⟨registered_addressed username home credential start,
        registered_identified username home credential start⟩ hmeets hrun
  refine ⟨fun node a ha hactive hsettled provider => ?_, hinv.2.removalsYield⟩
  exact (hinv.2.told node a ha provider).value_held ((hinv.2.known node a ha).free (.inl hactive))
    (hsettled provider)

/-! ## An identity that is refused -/

/-- A user who registers with a Discord identity on node `1`. -/
def discordUser : System := registered "ana" 1 (.oauth .discord "d") 0

def linuxdoRemoval : Command := ⟨1, "ana", .setOAuthIdentity .linuxdo "first" false 3⟩

def linuxdoRebound : Command := ⟨1, "ana", .setOAuthIdentity .linuxdo "second" true 4⟩

/-- The user binds a LinuxDo identity, unbinds it while the node is slow, and binds another; the
removal arrives last. -/
def rebinding : List Act :=
  [.transact (.bindOAuthIdentity .linuxdo "first" 10) .fresh,
    .transact (.unbindOAuthIdentity .linuxdo 20) .fresh,
    .send (.identity 1 .linuxdo), .finish linuxdoRemoval .failed 30,
    .transact (.bindOAuthIdentity .linuxdo "second" 40) .fresh,
    .send (.identity 1 .linuxdo), .execute linuxdoRebound, .finish linuxdoRebound .ok 50,
    .execute linuxdoRemoval]

def reboundUser : System := (run step discordUser rebinding).getD discordUser

theorem settled_accounts_know_identities_rebound :
    (reboundUser.nodes 1 "ana").identities .linuxdo = ⟨4, some "second"⟩ ∧
      reboundUser.IdentitiesKnown ∧ reboundUser.RemovalsYield := by
  have hrun : run step discordUser rebinding = some reboundUser := rfl
  exact ⟨by decide +kernel, settled_accounts_know_identities hrun (by decide +kernel)⟩

/-- What an account on node `2` has accepted before it is imported. -/
def importedIdentities : LocalAccount where
  password := ⟨0, none⟩
  identities
    | .discord => ⟨0, some "d"⟩
    | .linuxdo => ⟨5, none⟩

def importedDiscord : Command := ⟨2, "ana", .setOAuthIdentity .discord "d" true 1⟩

def importedLinuxdo : Command := ⟨2, "ana", .setOAuthIdentity .linuxdo "l" true 1⟩

/-- An account on node `2` is linked, and becomes the home when the conflict is resolved.  It
refuses the LinuxDo identity, the user is frozen again, and the conflict is resolved again. -/
def identityRefused : List Act :=
  [.transact (.bindOAuthIdentity .linuxdo "l" 10) .fresh,
    .transact (.linkImportCandidate 2 "ana" false false 20) importedIdentities,
    .transact (.completeConflictResolution 2 30) .fresh,
    .transact (.reconcileOAuthIdentitySyncIntents 40) .fresh,
    .send (.identity 2 .discord), .execute importedDiscord, .finish importedDiscord .ok 50,
    .send (.identity 2 .linuxdo), .execute importedLinuxdo, .finish importedLinuxdo .conflict 60,
    .transact (.completeConflictResolution 2 70) .fresh,
    .transact (.reconcileOAuthIdentitySyncIntents 80) .fresh]

def refusedUser : System := (run step discordUser identityRefused).getD discordUser

/-- **A conflict consumes the intent.**  The account on the home is active, and the worker has
nothing left to deliver or to repair; the user has a LinuxDo identity, and the node does not know
it. -/
theorem conflict_consumes_identity : run step discordUser identityRefused = some refusedUser ∧
      (refusedUser.rows.accounts.get? 2).map (fun a => (a.localHandle, a.status)) =
        some ("ana", .active) ∧
      (∀ provider, ((refusedUser.rows.syncs provider).get? 2).map (·.state) = some .completed) ∧
      refusedUser.rows.oauth.get .linuxdo = some "l" ∧
      ((refusedUser.nodes 2 "ana").identities .linuxdo).value = none := by
  refine ⟨rfl, by decide +kernel, fun provider => ?_, by decide +kernel, by decide +kernel⟩
  cases provider <;> decide +kernel

end StControl.Convergence
