import StControl.Convergence.Deliveries

/-!
# Which password a node has

Every account carries the hash and salt of a password under a version of its own, which each new
password and each removal raises by one.  An account that is active is meant to have the newest
password of the user, and a node is meant never to be offered an older version than before.

The version counts within one account; across the accounts of a user it means nothing.  A transfer
nevertheless gives a new account the password of the row with the largest version
(`prepareWorkflowTargetAccount`), whatever the status of that row.  A row that was left behind, as
stale rows are when a password is changed, may have the largest version: then the new account gets a
password that was superseded long ago, and is active with it (`superseded_material_provisioned`).

In a run that meets the conditions of `active_accounts_have_newest_password`, the row of an account
is ahead of everything that was sent to its node (`AccountRow.Ahead`), and an account in use has
what its row says (`AccountRow.Current`).
-/

namespace StControl.Convergence

open Store (NodeID UUID Time)
open Run Option Table

variable {target : NodeID} {handler : Option Material} {sending : Sending} {answer : Answer}

/-! ## The property -/

/-- The versions of a password that are sent to one account never decrease; `sent` has the newest
command first. -/
def VersionsGrow (sent : List Command) : Prop :=
  sent.Pairwise fun later earlier => later.node = earlier.node → ∀ p q,
    later.request.password = some p → earlier.request.password = some q → q.version ≤ p.version

def System.NewestHeld (s : System) : Prop :=
  (∀ node a, s.rows.accounts.get? node = some a → a.status = .active →
    (s.nodes node a.localHandle).password.value = s.staged) ∧
  (s.rows.password = none → s.staged = none) ∧ VersionsGrow s.sent

/-! ## The condition -/

/-- What a transfer to the node copies is the newest password, and more than what the old row of the
node has. -/
def Rows.copiesNewest (r : Rows) (target : NodeID) : Bool :=
  (r.password.isNone || r.newestMaterial.isSome) && r.newestMaterial.all AccountRow.staged &&
    (r.accounts.get? target).all fun old =>
      let version := (r.newestMaterial.map (·.passwordMaterialVersion)).getD 0
      old.passwordMaterialVersion < version || old.passwordMaterialVersion = version &&
        old.passwordMaterial = r.newestMaterial.bind (·.passwordMaterial)

def Rows.settled (r : Rows) : Bool :=
  r.accounts.all fun _ a => a.status ≠ .pending && a.status ≠ .stale

def Rows.withoutPassword (r : Rows) (known : LocalAccount) : Bool :=
  r.password.isNone && known.password = ⟨0, none⟩

def Transaction.keepsMaterial (s : System) (known : LocalAccount) : Transaction → Bool
  | .updateUserPassword .. | .bindPasswordIdentity .. | .recoverUserPasswordIdentity .. =>
    s.rows.accounts.all fun _ a => a.status ≠ .conflict
  | .unbindPassword _ =>
    s.handler.isNone && s.rows.accounts.all fun _ a => a.status ≠ .active && a.status ≠ .conflict
  | .createTransfer _ _ target _ =>
    ((s.rows.accounts.get? target).any fun a => a.status = .active) || s.rows.copiesNewest target
  | .linkImportCandidate node _ _ otherReplicas _ =>
    ((s.rows.accounts.get? node).isSome || s.rows.withoutPassword known) &&
      (!s.rows.otherData node otherReplicas || s.rows.settled)
  | .completeAccountImportClaim .. => s.rows.withoutPassword known
  | _ => true

def Command.keepsMaterial (r : Rows) (c : Command) (answer : Answer) : Bool :=
  match c.request with
  | .setPassword ⟨version, some _⟩ =>
    (r.accounts.get? c.node).all fun a =>
      if answer = .ok then
        !a.staged || version = a.passwordMaterialVersion && c.handle = a.localHandle
      else a.status ≠ .stale && a.status ≠ .disabled
  | _ => !c.freezes r answer || r.settled

def keepsMaterial (s : System) (act : Act) : Bool :=
  addressesAccount s act &&
    match act with
    | .transact t known => t.keepsMaterial s known
    | .finish c answer _ => c.keepsMaterial s.rows answer
    | _ => true

/-! ## Rows and what was sent -/

structure AccountRow.Ahead (accounts : String → LocalAccount) (sent : List Command)
    (node : NodeID) (a : AccountRow) : Prop where
  held : (accounts a.localHandle).password.version ≤ a.passwordMaterialVersion
  offered : ∀ c ∈ sent, c.node = node → ∀ p, c.request.password = some p →
    p.version ≤ a.passwordMaterialVersion
  carried : ∀ c ∈ sent, c.node = node → c.handle = a.localHandle → ∀ material,
    c.request = .setPassword ⟨a.passwordMaterialVersion, some material⟩ →
    a.passwordMaterial = some material
  provisioned : ∀ c ∈ sent, c.node = node → ∀ id version p identity,
    c.request = .restoreUserAccount id version p identity → version ≤ a.accountVersion ∧
      (version = a.accountVersion →
        p = ⟨a.passwordMaterialVersion, a.passwordMaterial⟩ ∧ c.handle = a.localHandle)

/-- An account in use, or frozen, has what its row says; and unless it was left behind, its row has
the newest password. -/
structure AccountRow.Current (accounts : String → LocalAccount) (staged : Option Material)
    (a : AccountRow) : Prop where
  settled : a.status = .active ∨ a.status = .conflict →
    (accounts a.localHandle).password = ⟨a.passwordMaterialVersion, a.passwordMaterial⟩
  newest : a.status ≠ .stale → a.status ≠ .disabled → a.passwordMaterial = staged

structure System.InOrder (s : System) : Prop where
  ahead : ∀ node a, s.rows.accounts.get? node = some a → a.Ahead (s.nodes node) s.sent node
  current : ∀ node a, s.rows.accounts.get? node = some a → a.Current (s.nodes node) s.staged
  handler : ∀ material, s.handler = some material → s.staged = some material
  bound : s.rows.password = none → s.staged = none
  growing : VersionsGrow s.sent

structure AccountRow.Advances (a a' : AccountRow) : Prop where
  material : a.passwordMaterialVersion < a'.passwordMaterialVersion ∨
    a'.passwordMaterialVersion = a.passwordMaterialVersion ∧
      a'.passwordMaterial = a.passwordMaterial
  account : a.accountVersion < a'.accountVersion ∨
    a'.accountVersion = a.accountVersion ∧ a'.localHandle = a.localHandle ∧
      a'.passwordMaterialVersion = a.passwordMaterialVersion ∧
      a'.passwordMaterial = a.passwordMaterial

section Rows

variable {accounts : String → LocalAccount} {sent : List Command} {node : NodeID}
  {a a' : AccountRow} {staged : Option Material}

lemma AccountRow.Restates.advances (h : a.Restates a') : a.Advances a' :=
  ⟨.inr ⟨h.passwordMaterialVersion, h.passwordMaterial⟩,
    .inr ⟨h.accountVersion, h.localHandle, h.passwordMaterialVersion, h.passwordMaterial⟩⟩

lemma AccountRow.Advances.le (h : a.Advances a') :
    a.passwordMaterialVersion ≤ a'.passwordMaterialVersion := by
  rcases h.material with hlt | ⟨heq, -⟩ <;> omega

lemma AccountRow.Ahead.advance (h : a.Ahead accounts sent node) (hadvances : a.Advances a')
    (hhandle : a'.localHandle = a.localHandle ∨ (accounts a'.localHandle).password.version = 0 ∧
        ∀ c ∈ sent, c.node = node → c.handle ≠ a'.localHandle) : a'.Ahead accounts sent node := by
  refine ⟨?_, fun c hc hnode p hp => Nat.le_trans (h.offered c hc hnode p hp) hadvances.le,
    fun c hc hnode hchandle material hrequest => ?_,
      fun c hc hnode id version p identity hrequest =>
    ?_⟩
  · rcases hhandle with hhandle | ⟨hzero, -⟩
    · rw [hhandle]
      exact Nat.le_trans h.held hadvances.le
    · rw [hzero]
      exact Nat.zero_le _
  · rcases hhandle with hhandle | ⟨-, hnone⟩
    · rcases hadvances.material with hlt | ⟨hversion, hmaterial⟩
      · have hoffered := h.offered c hc hnode _ (by rw [hrequest]; rfl)
        dsimp only at hoffered
        omega
      · rw [hmaterial]
        rw [hversion] at hrequest
        exact h.carried c hc hnode (hchandle.trans hhandle) material hrequest
    · exact absurd hchandle (hnone c hc hnode)
  · obtain ⟨hle, heq⟩ := h.provisioned c hc hnode id version p identity hrequest
    rcases hadvances.account with hlt | ⟨haccount, hsame, hversion, hmaterial⟩
    · exact ⟨by omega, fun hversion => by omega⟩
    · rw [haccount, hversion, hmaterial, hsame]
      exact ⟨hle, heq⟩

lemma ahead_of_unsent (hheld : (accounts a.localHandle).password.version = 0)
    (hunsent : ∀ c ∈ sent, c.node ≠ node) : a.Ahead accounts sent node := by
  refine ⟨by omega, fun c hc hnode => ?_, fun c hc hnode => ?_, fun c hc hnode => ?_⟩
  all_goals exact absurd hnode (hunsent c hc)

lemma Transaction.Rewrites.advances {r : Rows} {t : Transaction} (h : t.Rewrites r node a a') :
    a.Advances a' := by
  cases h with
  | staged | dropped => exact ⟨.inl (Nat.lt_succ_self _), .inl (Nat.lt_succ_self _)⟩
  | identity => exact ⟨.inr ⟨rfl, rfl⟩, .inl (Nat.lt_succ_self _)⟩
  | _ => exact ⟨.inr ⟨rfl, rfl⟩, .inr ⟨rfl, rfl, rfl, rfl⟩⟩

lemma AccountRow.Current.restate (h : a.Current accounts staged) (hrestates : a.Restates a')
    (hsettled : a'.status = .active ∨ a'.status = .conflict →
      a.status = .active ∨ a.status = .conflict)
    (hbehind : a.status = .stale ∨ a.status = .disabled →
      a'.status = .stale ∨ a'.status = .disabled) : a'.Current accounts staged := by
  refine ⟨fun hstatus => ?_, fun hstale hdisabled => ?_⟩
  · rw [hrestates.localHandle, hrestates.passwordMaterialVersion, hrestates.passwordMaterial]
    exact h.settled (hsettled hstatus)
  · rw [hrestates.passwordMaterial]
    refine h.newest (fun hs => ?_) (fun hd => ?_)
    · exact (hbehind (.inl hs)).elim hstale hdisabled
    · exact (hbehind (.inr hd)).elim hstale hdisabled

lemma current_of_stale (h : a.status = .stale) : a.Current accounts staged := by
  refine ⟨fun hstatus => ?_, fun hstale => absurd h hstale⟩
  rw [h] at hstatus
  exact hstatus.elim nofun nofun

lemma AccountRow.Current.active (h : a.Current accounts staged)
    (hwas : a.status = .active ∨ a.status = .conflict) (now : Time) :
    AccountRow.Current accounts staged { a with status := .active, updatedAt := now } := by
  refine h.restate ⟨rfl, rfl, rfl, rfl, rfl⟩ (fun _ => hwas) fun hbehind => ?_
  rcases hwas with hwas | hwas <;> rw [hwas] at hbehind <;> exact hbehind.elim nofun nofun

lemma AccountRow.Current.frozen (h : a.Current accounts staged) (hfreezable : a.freezable)
    (hstatus : a.status ≠ .pending ∧ a.status ≠ .stale) (now : Time) :
    AccountRow.Current accounts staged { a with status := .conflict, updatedAt := now } := by
  simp only [AccountRow.freezable, hstatus, decide_false, Bool.false_or, Bool.or_false,
    decide_eq_true_eq] at hfreezable
  refine h.restate ⟨rfl, rfl, rfl, rfl, rfl⟩ (fun _ => .inl hfreezable) fun hbehind => ?_
  rw [hfreezable] at hbehind
  exact hbehind.elim nofun nofun

end Rows

/-! ## Transactions -/

variable {s : System} {t : Transaction} {known : LocalAccount} {node : NodeID} {a : AccountRow}
  {r : Rows} {c : Command}

lemma Transaction.Rewrites.current {accounts : String → LocalAccount} {staged : Option Material}
    (hcurrent : a.Current accounts staged) (hstages : t.stages → a.status ≠ .conflict)
    (hdrop : ∀ now, t = .unbindPassword now → a.status ≠ .active ∧ a.status ≠ .conflict)
    (hswitch : t.switches r = some node → a.status = .active)
    (hfreeze : ∀ imported handle relink otherReplicas now,
      t = .linkImportCandidate imported handle relink otherReplicas now →
      r.otherData imported otherReplicas → a.status ≠ .pending ∧ a.status ≠ .stale)
    (h : t.Rewrites r node a a') : a'.Current accounts (nextStaged staged t) := by
  cases h with
  | same quiet =>
    rwa [quiet]
  | staged _ next =>
    rw [next]
    exact ⟨fun hstatus => hstatus.elim nofun nofun, fun _ _ => rfl⟩
  | unstaged stages next unstaged =>
    simp only [AccountRow.staged, Bool.or_eq_true,
      decide_eq_true_eq, not_or] at unstaged
    refine ⟨fun hstatus => (hstatus.elim unstaged.1.1 (hstages stages)).elim,
      fun hstale hdisabled => ?_⟩
    cases hstatus : a.status <;> simp_all
  | dropped unbinds =>
    have hstatus := hdrop _ unbinds
    subst unbinds
    exact ⟨fun hsettled => (hsettled.elim hstatus.1 hstatus.2).elim, fun _ _ => rfl⟩
  | identity quiet =>
    rw [quiet]
    exact ⟨hcurrent.settled, hcurrent.newest⟩
  | givenUp fails _ _ pending =>
    subst fails
    refine hcurrent.restate ⟨rfl, rfl, rfl, rfl, rfl⟩ (fun hstatus => hstatus.elim nofun nofun)
      fun hbehind => ?_
    rw [pending] at hbehind
    exact hbehind.elim nofun nofun
  | activated quiet was =>
    rw [quiet]
    exact hcurrent.active (was.symm.imp_left hswitch) _
  | superseded => exact current_of_stale rfl
  | frozen links other freezable =>
    have hstatus := hfreeze _ _ _ _ _ links other
    subst links
    exact hcurrent.frozen freezable hstatus _

lemma stages_keepsMaterial (hkeeps : t.keepsMaterial s known) (h : t.stages) :
    s.rows.accounts.all (fun _ a => a.status ≠ .conflict) := by
  cases t <;> first | exact hkeeps | cases h

lemma newestMaterial_mem (h : r.newestMaterial = some a) :
    ∃ node, r.accounts.get? node = some a := by
  have hfold : ∀ best, r.newestMaterial = some best →
      ∃ node, r.accounts.get? node = some best := by
    refine fold_invariant_of_get?
      (P := fun best => ∀ b, best = some b → ∃ node, r.accounts.get? node = some b) nofun ?_
    intro best node b hb hbest
    unfold betterMaterial
    split
    · rintro _ ⟨⟩
      exact ⟨node, hb⟩
    · exact hbest
  exact hfold a h

lemma perform_unbound {r' : Rows} (h : r.perform t = some r')
    (hunbound : r'.password = none) (staged : Option Material) :
    nextStaged staged t = none ∨ r.password = none ∧ nextStaged staged t = staged := by
  cases t with
  | updateUserPassword =>
    obtain ⟨identity, -, rfl⟩ := map_eq_some_iff.mp h
    cases hunbound
  | bindPasswordIdentity | recoverUserPasswordIdentity =>
    obtain ⟨-, rfl⟩ := of_guarded h
    cases hunbound
  | unbindPassword => exact .inl rfl
  | clearPasswordFallbackIfConverged =>
    cases h
    refine .inr ⟨?_, rfl⟩
    unfold clearPasswordFallbackIfConverged at hunbound
    split at hunbound
    · exact hunbound
    · exact map_eq_none_iff.mp hunbound
  | _ =>
    rw [(perform_spares h).password rfl] at hunbound
    exact .inr ⟨hunbound, rfl⟩

lemma keepsMaterial_import (hkeeps : t.keepsMaterial s known) {handle : String}
    (himports : t.imports = some (node, handle)) (hnone : s.rows.accounts.get? node = none) :
    s.rows.password = none ∧ known.password = ⟨0, none⟩ := by
  have hwithout : s.rows.withoutPassword known := by
    cases t with
    | linkImportCandidate =>
      obtain ⟨rfl, rfl⟩ := himports
      simp only [Transaction.keepsMaterial, hnone, isSome_none, Bool.false_or,
        Bool.and_eq_true] at hkeeps
      exact hkeeps.1
    | completeAccountImportClaim => exact hkeeps
    | _ => cases himports
  simpa only [Rows.withoutPassword, Bool.and_eq_true, Bool.or_eq_true, Bool.not_eq_true',
    decide_eq_true_eq, isNone_iff_eq_none] using hwithout

lemma Sends.version (h : Sends s sending c) {p : Versioned (Option Material)}
    (hp : c.request.password = some p) (ha : s.rows.accounts.get? c.node = some a) :
    p.version = a.passwordMaterialVersion := by
  cases h with
  | password row | removal row | account workflow live row =>
    rw [row, some.injEq] at ha
    rw [← some.inj hp, ha]
  | identity => cases hp

lemma password_apply (account : LocalAccount) (request : Request) :
    (account.apply request).password =
      (request.password.map account.password.offer).getD account.password := rfl

namespace System.InOrder

variable (hs : s.InOrder)
include hs

lemma prepared_current (hcopies : s.rows.copiesNewest target) (workflowID : UUID) (now : Time)
    (accounts : String → LocalAccount) :
    (preparedAccount workflowID now s.rows (s.rows.accounts.get? target)).Current accounts
      s.staged := by
  simp only [Rows.copiesNewest, Bool.and_eq_true, Bool.or_eq_true,
    isNone_iff_eq_none]
    at hcopies
  obtain ⟨⟨hbound, hstaged⟩, -⟩ := hcopies
  refine ⟨fun hstatus => hstatus.elim nofun nofun, fun _ _ => ?_⟩
  simp only [preparedAccount]
  cases hnewest : s.rows.newestMaterial with
  | none =>
    rw [hnewest] at hbound
    exact (hs.bound (hbound.resolve_right nofun)).symm
  | some b =>
    obtain ⟨node, hb⟩ := newestMaterial_mem hnewest
    rw [hnewest, Option.all_some] at hstaged
    refine (hs.current node b hb).newest (fun hstatus => ?_) fun hstatus => ?_
    all_goals simp [AccountRow.staged, hstatus] at hstaged

lemma prepared_ahead (haddressed : s.Addressed) (hcopies : s.rows.copiesNewest target)
    (workflowID : UUID) (now : Time) :
    (preparedAccount workflowID now s.rows (s.rows.accounts.get? target)).Ahead (s.nodes target)
      s.sent target := by
  cases hold : s.rows.accounts.get? target with
  | none =>
    have hfresh := haddressed.untouched target fun a ha => by rw [hold] at ha; cases ha
    refine ahead_of_unsent ?_ fun c hc hnode => ?_
    · rw [preparedAccount, hfresh]
      rfl
    · obtain ⟨a, ha, -⟩ := haddressed.row c hc
      rw [hnode, hold] at ha
      cases ha
  | some old =>
    simp only [Rows.copiesNewest, hold, Option.all_some, Bool.and_eq_true, Bool.or_eq_true,
      decide_eq_true_eq] at hcopies
    have hadvances : old.Advances (preparedAccount workflowID now s.rows (some old)) := by
      refine ⟨?_, .inl (Nat.lt_succ_self _)⟩
      rcases hcopies.2 with hlt | ⟨hversion, hmaterial⟩
      · exact .inl hlt
      · exact .inr ⟨hversion.symm, hmaterial.symm⟩
    refine (hs.ahead target old hold).advance hadvances ?_
    by_cases hname : old.localHandle = s.rows.username
    · exact .inl hname.symm
    refine .inr ⟨?_, fun c hc hnode hhandle => ?_⟩
    · have hfresh := haddressed.untouched target fun a ha => by
        rw [hold, some.injEq] at ha
        exact ha ▸ hname
      rw [preparedAccount, hfresh]
      rfl
    · obtain ⟨a, ha, hsent⟩ := haddressed.row c hc
      rw [hnode, hold, some.injEq] at ha
      subst ha
      exact hname (hsent.elim (fun hsame => hsame.symm.trans hhandle) id)

lemma after_handler (h : nextHandler s.handler t = some handler) (hkeeps : t.keepsMaterial s known)
    {material : Material} (hmaterial : handler = some material) :
    nextStaged s.staged t = some material := by
  subst hmaterial
  cases t with
  | updateUserPassword | bindPasswordIdentity =>
    simp only [nextHandler, ite_none_right_eq_some, some.injEq] at h
    exact congrArg some h.2
  | recoverUserPasswordIdentity =>
    simp only [nextHandler, ite_none_right_eq_some] at h
    exact nomatch h.2
  | unbindPassword =>
    simp only [Transaction.keepsMaterial, Bool.and_eq_true, isNone_iff_eq_none] at hkeeps
    rw [hkeeps.1] at h
    cases h
  | _ => exact hs.handler material (some.inj h)

lemma transact {rows : Rows} (haddressed : s.Addressed)
    (hhandler : nextHandler s.handler t = some handler) (h : s.rows.perform t = some rows)
    (hkeeps : t.keepsMaterial s known) : System.InOrder { s with
      rows, handler
      nodes := importedNodes s.rows known s.nodes t, staged := nextStaged s.staged t } := by
  -- Where there is no row, nothing was sent.
  have hunsent {node : NodeID} (hnone : s.rows.accounts.get? node = none) :
      ∀ c ∈ s.sent, c.node ≠ node := by
    rintro c hc rfl
    obtain ⟨a, ha, -⟩ := haddressed.row c hc
    cases hnone.symm.trans ha
  have hcopies {workflowID workflowType node now a}
      (ht : t = .createTransfer workflowID workflowType node now)
      (hwritten : t.written s.rows = some (node, a)) : s.rows.copiesNewest node := by
    subst ht
    simp only [Transaction.written, ite_none_left_eq_some] at hwritten
    simpa only [Transaction.keepsMaterial, hwritten.1, Bool.false_or] using hkeeps
  have hrow {node a'} (ha' : rows.accounts.get? node = some a') :
      a'.Ahead (importedNodes s.rows known s.nodes t node) s.sent node ∧
        a'.Current (importedNodes s.rows known s.nodes t node) (nextStaged s.staged t) := by
    rcases perform_row h ha' with ⟨a, ha, rfl⟩ | ⟨a, hwritten, rfl⟩
    · have hnodes : importedNodes s.rows known s.nodes t node = s.nodes node :=
        funext (importedNodes_of_row ha known s.nodes t)
      rw [hnodes]
      have hrewrites := t.rewrites s.rows node a
      refine ⟨(hs.ahead node a ha).advance hrewrites.advances (.inl (localHandle_rewrite ..)),
        hrewrites.current (hs.current node a ha) (fun hstages => ?_) ?_
          (active_of_switches h · ha) ?_⟩
      · simpa using Table.all_eq_true.mp (stages_keepsMaterial hkeeps hstages) node a ha
      · rintro now rfl
        simp only [Transaction.keepsMaterial, Bool.and_eq_true] at hkeeps
        simpa using Table.all_eq_true.mp hkeeps.2 node a ha
      · rintro imported handle relink otherReplicas now rfl hother
        simp only [Transaction.keepsMaterial, hother, Bool.not_true, Bool.false_or,
          Bool.and_eq_true] at hkeeps
        simpa using Table.all_eq_true.mp hkeeps.2 node a ha
    · rcases written_import h hwritten with
        ⟨workflowID, workflowType, now, ht, rfl⟩ | ⟨hnone, himports, subjects, now, himported⟩
      · have hcopied := hcopies ht hwritten
        subst ht
        exact ⟨hs.prepared_ahead haddressed hcopied workflowID now,
          hs.prepared_current hcopied workflowID now (s.nodes node)⟩
      · obtain ⟨hbound, hknown⟩ := keepsMaterial_import hkeeps himports hnone
        have hactive : a.status = .active := by rw [himported]; rfl
        have hheld : (importedNodes s.rows known s.nodes t node a.localHandle).password =
            ⟨0, none⟩ := by
          rw [importedNodes_apply, if_pos ⟨himports, hnone⟩, hknown]
        have hrewrites := t.rewrites s.rows node a
        refine ⟨(ahead_of_unsent (by rw [hheld]) (hunsent hnone)).advance
          hrewrites.advances (.inl (localHandle_rewrite ..)),
            hrewrites.current ⟨fun _ => ?_, fun _ _ => ?_⟩ (fun _ => by rw [hactive]; decide)
              (fun now ht => ?_) (fun _ => hactive) fun _ _ _ _ _ _ _ => by rw [hactive]; decide⟩
        · rw [hheld, himported]
          rfl
        · rw [hs.bound hbound, himported]
          rfl
        · subst ht
          cases himports
  refine ⟨fun node a' ha' => (hrow ha').1, fun node a' ha' => (hrow ha').2,
    fun material hmaterial => ?_, fun hunbound => ?_, hs.growing⟩
  · exact hs.after_handler hhandler hkeeps hmaterial
  · rcases perform_unbound h hunbound s.staged with hnone | ⟨hbefore, hsame⟩
    · exact hnone
    · exact hsame.trans (hs.bound hbefore)

/-! ## Commands -/

lemma send (haddressed : s.Addressed) (h : Sends s sending c)
    (haddresses : addressesAccount s (.send sending)) :
    System.InOrder { s with sent := c :: s.sent, waiting := c :: s.waiting } := by
  refine ⟨fun node a ha => ?_, hs.current, hs.handler, hs.bound, ?_⟩
  · obtain ⟨hheld, hoffered, hcarried, hprovisioned⟩ := hs.ahead node a ha
    refine ⟨hheld, fun c' hc' hnode p hp => ?_, fun c' hc' hnode hhandle material hrequest => ?_,
      fun c' hc' hnode id version p identity hrequest => ?_⟩
    · rcases List.mem_cons.mp hc' with rfl | hc'
      · exact Nat.le_of_eq (h.version hp (hnode ▸ ha))
      · exact hoffered c' hc' hnode p hp
    · rcases List.mem_cons.mp hc' with rfl | hc'
      · cases h with
        | password row source =>
          subst hnode
          obtain rfl := mem_unique row ha
          obtain rfl := some.inj (Versioned.mk.inj (Request.setPassword.inj hrequest)).2
          rcases source with ⟨hhandler, hstaged⟩ | ⟨-, hmaterial, -⟩
          · rw [← hs.handler _ hhandler]
            refine (hs.current _ _ row).newest (fun hstatus => ?_) fun hstatus => ?_
            all_goals simp [AccountRow.staged, hstatus] at hstaged
          · exact hmaterial
        | removal => cases (Versioned.mk.inj (Request.setPassword.inj hrequest)).2
        | identity | account => cases hrequest
      · exact hcarried c' hc' hnode hhandle material hrequest
    · rcases List.mem_cons.mp hc' with rfl | hc'
      · cases h with
        | account workflow live row =>
          subst hnode
          obtain rfl := mem_unique row ha
          obtain ⟨-, rfl, rfl, -⟩ := Request.restoreUserAccount.inj hrequest
          refine ⟨Nat.le_refl _, fun _ => ⟨rfl, ?_⟩⟩
          simp only [addressesAccount, workflow, row, Option.all_some, decide_eq_true_eq]
            at haddresses
          exact haddresses.symm
        | _ => cases hrequest
      · exact hprovisioned c' hc' hnode id version p identity hrequest
  · refine List.pairwise_cons.mpr ⟨fun earlier hearlier hnode p q hp hq => ?_, hs.growing⟩
    obtain ⟨a, ha, -⟩ := haddressed.row earlier hearlier
    rw [h.version hp (hnode ▸ ha)]
    exact (hs.ahead earlier.node a ha).offered earlier hearlier rfl q hq

lemma executed (hc : c ∈ s.sent) : (s.executed c).InOrder := by
  refine ⟨fun node a ha => ?_, fun node a ha => ?_, hs.handler, hs.bound, hs.growing⟩
  · obtain ⟨hheld, hoffered, hcarried, hprovisioned⟩ := hs.ahead node a ha
    refine ⟨?_, hoffered, hcarried, hprovisioned⟩
    simp only [System.executed]
    split
    next hcommand =>
      rw [password_apply]
      cases hp : c.request.password with
      | none => exact hheld
      | some p => exact Versioned.offer_version_le hheld (hoffered c hc hcommand.1.symm p hp)
    next => exact hheld
  · refine ⟨fun hstatus => ?_, (hs.current node a ha).newest⟩
    have hsettled := (hs.current node a ha).settled hstatus
    simp only [System.executed]
    split
    next hcommand =>
      rw [password_apply]
      cases hp : c.request.password with
      | none => exact hsettled
      | some p =>
        -- Nothing newer than the row can have been sent.
        have hle := (hs.ahead node a ha).offered c hc hcommand.1.symm p hp
        refine (Versioned.offer_of_le ?_).trans hsettled
        rwa [hsettled]
    next => exact hsettled

section

variable {now : Time} (haddressed : s.Addressed) (hanswered : s.answered c answer)
  (hkeeps : c.keepsMaterial s.rows answer)
include haddressed hanswered hkeeps

lemma current_after (ha : s.rows.accounts.get? node = some a)
    (h : c.Rewrites s.rows answer now node a a') : a'.Current (s.nodes node) s.staged := by
  have hcurrent := hs.current node a ha
  have hahead := hs.ahead node a ha
  cases h with
  | same => exact hcurrent
  | activated hok hstaged =>
    subst hok
    simp only [Command.keepsMaterial, ha, Option.all_some, if_true, hstaged, Bool.not_true,
      Bool.false_or, Bool.and_eq_true,
      decide_eq_true_eq] at hkeeps
    obtain ⟨rfl, rfl⟩ := hkeeps
    have hanswered := mem_answers_of_ok hanswered
    have hmaterial := hahead.carried _ (haddressed.sent _ _ hanswered) rfl rfl _ rfl
    have htaken := (haddressed.taken _ hanswered).password _ rfl
    refine ⟨fun _ => ?_, fun _ _ => hcurrent.newest (fun hstatus => ?_) fun hstatus => ?_⟩
    · rw [hmaterial]
      exact htaken.eq_of_le hahead.held
    all_goals simp [AccountRow.staged, hstatus] at hstaged
  | failed hfailed =>
    simp only [Command.keepsMaterial, ha, Option.all_some, hfailed, if_false, ne_eq, decide_not,
      Bool.and_eq_true, Bool.not_eq_true',
      decide_eq_false_iff_not] at hkeeps
    exact ⟨by simp, fun _ _ => hcurrent.newest hkeeps.1 hkeeps.2⟩
  | frozen hfreezes hfreezable hrequest =>
    simp only [Command.keepsMaterial, hrequest, hfreezes, Bool.not_true, Bool.false_or] at hkeeps
    exact hcurrent.frozen hfreezable (by simpa using Table.all_eq_true.mp hkeeps node a ha) now
  | provisioned hprovisions hrequest =>
    obtain ⟨target, handle, request⟩ := c
    cases hrequest
    simp only [Command.provisions, Bool.and_eq_true,
      decide_eq_true_eq, Option.any_eq_true]
      at hprovisions
    obtain ⟨rfl, w, hw, ⟨-, rfl⟩, b, hb, hpending, hversion⟩ := hprovisions
    obtain rfl := mem_unique ha hb
    have hanswered := mem_answers_of_ok hanswered
    have hsent := haddressed.sent _ _ hanswered
    obtain ⟨w', hw', htarget⟩ := haddressed.target _ hsent _ _ _ _ rfl
    rw [hw, some.injEq] at hw'
    subst hw'
    obtain ⟨rfl, rfl⟩ := (hahead.provisioned _ hsent htarget.symm _ _ _ _ rfl).2 hversion.symm
    have htaken := htarget ▸ (haddressed.taken _ hanswered).password _ rfl
    refine ⟨fun _ => htaken.eq_of_le hahead.held, fun _ _ => hcurrent.newest ?_ ?_⟩
    all_goals
      rw [hpending]
      decide

lemma finish : System.InOrder
      { s with rows := s.rows.record c answer now, waiting := s.waiting.erase c } := by
  refine ⟨fun node a' ha' => ?_, fun node a' ha' => ?_, hs.handler, fun hunbound => ?_, hs.growing⟩
  · obtain ⟨a, ha, hrewrites⟩ := of_get?_record ha'
    have hrestates := hrewrites.restates
    exact (hs.ahead node a ha).advance hrestates.advances (.inl hrestates.localHandle)
  · obtain ⟨a, ha, hrewrites⟩ := of_get?_record ha'
    have hcurrent := hs.current_after haddressed hanswered hkeeps ha hrewrites
    exact hcurrent
  · exact hs.bound ((record_frame s.rows c answer now).2.1 ▸ hunbound)

end

end System.InOrder

/-! ## Whole runs -/

lemma System.InOrder.step {s' : System} {act : Act} (haddressed : s.Addressed) (hs : s.InOrder)
    (hkeeps : keepsMaterial s act) (h : Convergence.step s act = some s') : s'.InOrder := by
  obtain ⟨haddresses, hkeeps⟩ := Bool.and_eq_true_iff.mp hkeeps
  cases stepped_of_step h with
  | transact hhandler hrows => exact hs.transact haddressed hhandler hrows hkeeps
  | send hc => exact hs.send haddressed (sends_of_command hc) haddresses
  | execute hc => exact hs.executed hc
  | finish _ hanswered => exact hs.finish haddressed hanswered hkeeps
  | releaseHandler => exact ⟨hs.ahead, hs.current, nofun, hs.bound, hs.growing⟩

lemma registered_inOrder (username : String) (home : NodeID) (credential : Credential)
    (now : Time) : (registered username home credential now).InOrder := by
  have hheld : ((registered username home credential now).nodes home username).password =
      ⟨if credential.material.isSome then 1 else 0, credential.material⟩ := by
    simp only [registered, and_self, if_true]
  refine ⟨fun node a ha => ?_, fun node a ha => ?_, nofun, fun hnone => ?_, .nil⟩
  · obtain ⟨rfl, rfl⟩ := of_get?_registeredRows ha
    refine ⟨?_, nofun, nofun, nofun⟩
    rw [hheld]
  · obtain ⟨rfl, rfl⟩ := of_get?_registeredRows ha
    refine ⟨fun _ => ?_, fun _ _ => rfl⟩
    rw [hheld]
  · cases credential with
    | password => cases hnone
    | oauth => rfl

/-- **Active accounts have the newest password.**  In a run whose steps all keep the passwords in
order, the node of every active account holds the newest password of the user, or none if there is
none; and the versions sent to an account never decrease. -/
theorem active_accounts_have_newest_password {username : String} {home : NodeID}
    {credential : Credential} {start : Time} {acts : List Act} {s : System}
    (hrun : run step (registered username home credential start) acts = some s)
    (hmeets : Meets step (fun s act => keepsMaterial s act = true)
      (registered username home credential start) acts) : s.NewestHeld := by
  have hinv : s.Addressed ∧ s.InOrder :=
    run_invariant_of_meets (P := fun s => s.Addressed ∧ s.InOrder)
      (fun s act s' hs hkeeps h =>
        ⟨hs.1.step (Bool.and_eq_true_iff.mp hkeeps).1 h, hs.2.step hs.1 hkeeps h⟩)
      ⟨registered_addressed username home credential start,
        registered_inOrder username home credential start⟩ hmeets hrun
  refine ⟨fun node a ha hactive => ?_, hinv.2.bound, hinv.2.growing⟩
  have hcurrent := hinv.2.current node a ha
  rw [hcurrent.settled (.inl hactive)]
  exact hcurrent.newest (by rw [hactive]; nofun) (by rw [hactive]; nofun)

/-! ## A password that comes back -/

def passwordReplaced (node : NodeID) (version : ℕ) (hash : String) (now : Time) : List Act :=
  let command : Command := ⟨node, "ana", .setPassword ⟨version, some ⟨hash, "salt"⟩⟩⟩
  [.transact (.updateUserPassword hash ⟨hash, "salt"⟩ now) .fresh,
    .send (.password node), .execute command, .finish command .ok now, .releaseHandler]

def standbyAccount : Command :=
  ⟨3, "ana", .restoreUserAccount 7 1 ⟨2, some ⟨"second", "salt"⟩⟩ none⟩

/-- A standby on node `3`. -/
def standbyProvisioned : List Act :=
  [.transact (.createTransfer 7 .snapshot 3 70) .fresh, .send (.account 7),
    .execute standbyAccount, .finish standbyAccount .ok 80]

def standbyUser : System :=
  (run step newUser (passwordReplaced 1 2 "second" 20 ++ standbyProvisioned)).getD newUser

theorem active_accounts_have_newest_password_standby :
    (standbyUser.rows.accounts.get? 3).map (·.status) = some .active ∧ standbyUser.NewestHeld := by
  have hrun : run step newUser (passwordReplaced 1 2 "second" 20 ++ standbyProvisioned) =
      some standbyUser := rfl
  exact ⟨by decide +kernel, active_accounts_have_newest_password hrun (by decide +kernel)⟩

/-- The user links an account on node `2`, and resolves the conflict in its favour; then the
password is changed, and the standby is created as before. -/
def homeReplaced : List Act :=
  [.transact (.bindOAuthIdentity .discord "subject" 10) .fresh] ++
    passwordReplaced 1 2 "second" 20 ++
    [.transact (.linkImportCandidate 2 "ana" false false 30) .fresh,
      .transact (.completeConflictResolution 2 40) .fresh] ++
    passwordReplaced 2 1 "third" 50 ++ standbyProvisioned

def replacedUser : System := (run step newUser homeReplaced).getD newUser

/-- **A superseded password is provisioned.**  The newest password is the third.  The account of the
standby is active with the second, which it has from the stale account on node `1`. -/
theorem superseded_material_provisioned : run step newUser homeReplaced = some replacedUser ∧
      replacedUser.staged = some ⟨"third", "salt"⟩ ∧
      (replacedUser.rows.accounts.get? 3).map (fun a => (a.localHandle, a.status)) =
        some ("ana", .active) ∧
      (replacedUser.nodes 3 "ana").password = ⟨2, some ⟨"second", "salt"⟩⟩ :=
  ⟨rfl, by decide +kernel, by decide +kernel, by decide +kernel⟩

end StControl.Convergence
