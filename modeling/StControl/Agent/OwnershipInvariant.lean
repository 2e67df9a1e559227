import StControl.Agent.OwnershipProtocol

/-!
# The invariant of the ownership protocol

Everything in a reachable cluster is backed by the record of the run:

* a claim held or reported by a node was *adopted* by that node, and every adopted claim was
  *minted* by a grant or a takeover (`Inv.owned`, `MessageOK`, `TaskOK`, `OperationOK`);
* a node only ever replaces a claim by one with a strictly larger key, so it adopts at most one
  claim per handle and key over its whole history (`Inv.adopted_le`, `Inv.adopted_inj`);
* a decided claim was adopted, under its identity, by a majority (`EventOK`, `HeldByQuorum`).

All of these speak about the record, which only grows, so most of the work is in the few
primitive updates of `World`: each of them keeps the invariant under a condition on what it adds
(`Inv.record`, `Inv.send`, `Inv.putTask`, `Inv.apply`, …), and each action is a composition of
primitives.  `inv_step` is the step lemma, `inv_run` the run lemma.
-/

namespace StControl.Agent

open Quorum Option List

variable {n : NodeID} {st : NodeState} {t : Task} {c : ActivityOwnershipClaim}

/-! ## What the record says -/

/-- Node `n` has adopted a claim with this identity at some time. -/
def Witnessed (log : List Event) (n : NodeID) (claimID : String) : Prop :=
  ∃ c : ActivityOwnershipClaim, .adopted n c ∈ log ∧ c.claimID = claimID

def HeldByQuorum (cluster : Cluster) (log : List Event) (claimID : String) : Prop :=
  ∃ Q : Finset NodeID, IsQuorum cluster.members.toFinset Q ∧ ∀ n ∈ Q, Witnessed log n claimID

lemma Witnessed.mono {log log' : List Event} (hlog : log ⊆ log') {i : String}
    (h : Witnessed log n i) : Witnessed log' n i := by
  obtain ⟨c, hc, hi⟩ := h
  exact ⟨c, hlog hc, hi⟩

lemma HeldByQuorum.mono {cluster : Cluster} {log log' : List Event} (hlog : log ⊆ log')
    {i : String} (h : HeldByQuorum cluster log i) : HeldByQuorum cluster log' i := by
  obtain ⟨Q, hQ, hw⟩ := h
  exact ⟨Q, hQ, fun n hn => (hw n hn).mono hlog⟩

def MintOK (log : List Event) (c : ActivityOwnershipClaim) : Prop :=
  0 ≤ c.takeoverSequence ∧ InInt64 c.takeoverSequence ∧
    (c.kind = .userConfirmedTakeover → ∃ p : ActivityOwnershipClaim, .minted p ∈ log ∧
      p.claimID = c.parentClaimID ∧ p.handle = c.handle ∧
      p.controllerGeneration = c.controllerGeneration ∧ p.activityEpoch = c.activityEpoch ∧
      c.takeoverSequence = p.takeoverSequence + 1)

def EventOK (cluster : Cluster) (log : List Event) : Event → Prop
  | .minted c => MintOK log c
  | .adopted n c => n ∈ cluster.members ∧ .minted c ∈ log
  | .queryStarted _ _ _ => True
  | .queryOK n call c _ => .minted c ∈ log ∧ HeldByQuorum cluster log c.claimID ∧
      .queryStarted n call c.handle ∈ log
  | .takeoverCommitted _ c => .minted c ∈ log ∧ HeldByQuorum cluster log c.claimID ∧
      c.kind = .userConfirmedTakeover

/-- A journal entry of node `n`. -/
structure OperationOK (cluster : Cluster) (log : List Event) (n : NodeID)
    (op : OwnershipTakeoverOperation) : Prop where
  kind : op.claim.kind = .userConfirmedTakeover
  minted : .minted op.claim ∈ log
  witnessed : Witnessed log n op.claim.claimID
  held : op.succeeded → HeldByQuorum cluster log op.claim.claimID

def BodyOK (log : List Event) (m : Message) : Prop :=
  match m.body with
  | .query handle => .queryStarted m.source m.call handle ∈ log
  | .queryReply (some c) _ => .adopted m.source c ∈ log ∧
      .queryStarted m.destination m.call c.handle ∈ log
  | .queryReply none _ => True
  | .observe c => .minted c ∈ log
  | .observed c _ => .minted c ∈ log
  | .observeReply (some c) _ => .adopted m.source c ∈ log
  | .observeReply none _ => True

structure MessageOK (cluster : Cluster) (log : List Event) (nextCall : ℕ) (m : Message) :
    Prop where
  source : m.source ∈ cluster.members
  destination : m.destination ∈ cluster.members
  call_lt : m.call < nextCall
  body : BodyOK log m

/-- The stage of a request, for the state `st` of its node. -/
def PhaseOK (cluster : Cluster) (log : List Event) (st : NodeState) (t : Task) : Prop :=
  match t.phase with
  | .collecting _ claims _ _ => .queryStarted t.node t.call t.handle ∈ log ∧
      ∀ x c, (x, c) ∈ claims → .adopted x c ∈ log ∧ c.handle = t.handle
  | .confirmed => True
  | .parentRead p => .adopted t.node p ∈ log ∧ p.handle = t.handle
  | .applied c => c.kind = .userConfirmedTakeover ∧ .minted c ∈ log ∧ Witnessed log t.node c.claimID
  | .journaled op => OperationOK cluster log t.node op ∧
      (op.succeeded = false → st.operation? op.operationID = some op)
  | .broadcasting op nodes _ => op.succeeded = false ∧ OperationOK cluster log t.node op ∧
      st.operation? op.operationID = some op ∧ nodes ⊆ cluster.members.toFinset ∧
      ∀ x ∈ nodes, Witnessed log x op.claim.claimID
  | .acknowledged op => op.succeeded = false ∧ OperationOK cluster log t.node op ∧
      st.operation? op.operationID = some op ∧ HeldByQuorum cluster log op.claim.claimID
  | .succeeded op => OperationOK cluster log t.node op ∧ HeldByQuorum cluster log op.claim.claimID

lemma PhaseOK.congr_journal {cluster : Cluster} {log : List Event} {st' : NodeState}
    (h : PhaseOK cluster log st t) (hops : st'.ownershipTakeovers = st.ownershipTakeovers) :
    PhaseOK cluster log st' t := by
  have hfind : st'.operation? = st.operation? := by
    funext i
    unfold NodeState.operation?
    rw [hops]
  unfold PhaseOK at h ⊢
  rwa [hfind]

def Phase.isTakeover : Phase → Bool
  | .collecting _ _ _ _ => false
  | _ => true

structure TaskOK (cluster : Cluster) (log : List Event) (nextCall : ℕ) (st : NodeState)
    (t : Task) : Prop where
  member : t.node ∈ cluster.members
  call_lt : t.call < nextCall
  request_handle : ∀ r, t.request = some r → r.handle = t.handle
  takeover : t.phase.isTakeover → t.request.isSome
  phase : PhaseOK cluster log st t

structure Inv (cluster : Cluster) (w : World) : Prop where
  events : ∀ e ∈ w.log, EventOK cluster w.log e
  messages : ∀ m ∈ w.network, MessageOK cluster w.log w.nextCall m
  tasks : ∀ t ∈ w.tasks, TaskOK cluster w.log w.nextCall (w.nodes t.node) t
  journals : ∀ n, ∀ op ∈ (w.nodes n).ownershipTakeovers, OperationOK cluster w.log n op
  owned : ∀ n h c, (w.nodes n).activityOwnership h = some c → c.handle = h ∧ .adopted n c ∈ w.log
  adopted_le : ∀ n c, .adopted n c ∈ w.log →
    ∃ cur, (w.nodes n).activityOwnership c.handle = some cur ∧ c.key ≤ cur.key
  adopted_inj : ∀ n c d, .adopted n c ∈ w.log → .adopted n d ∈ w.log → c.handle = d.handle →
    c.key = d.key → c = d
  started_lt : ∀ n call h, .queryStarted n call h ∈ w.log → call < w.nextCall
  started_inj : ∀ n n' call h h', .queryStarted n call h ∈ w.log →
    .queryStarted n' call h' ∈ w.log → h = h'
  lock : ∀ t ∈ w.tasks, ∀ u ∈ w.tasks, t.node = u.node → t.request.isSome →
    u.request.isSome → t.call = u.call

/-! ## Everything is monotone in the record -/

section Mono

variable {cluster : Cluster} {log log' : List Event} (hlog : log ⊆ log')
include hlog

lemma EventOK.mono {e : Event} (h : EventOK cluster log e) : EventOK cluster log' e := by
  cases e with
  | minted c =>
    obtain ⟨h0, hr, hp⟩ := h
    refine ⟨h0, hr, fun hk => ?_⟩
    obtain ⟨p, hp, hrest⟩ := hp hk
    exact ⟨p, hlog hp, hrest⟩
  | adopted n c => exact ⟨h.1, hlog h.2⟩
  | queryStarted n call handle => trivial
  | queryOK n call c d => exact ⟨hlog h.1, h.2.1.mono hlog, hlog h.2.2⟩
  | takeoverCommitted n c => exact ⟨hlog h.1, h.2.1.mono hlog, h.2.2⟩

lemma OperationOK.mono {op : OwnershipTakeoverOperation} (h : OperationOK cluster log n op) :
    OperationOK cluster log' n op where
  kind := h.kind
  minted := hlog h.minted
  witnessed := h.witnessed.mono hlog
  held hs := (h.held hs).mono hlog

lemma BodyOK.mono {m : Message} (h : BodyOK log m) : BodyOK log' m := by
  unfold BodyOK at h ⊢
  split at h
  · exact hlog h
  · exact ⟨hlog h.1, hlog h.2⟩
  · trivial
  · exact hlog h
  · exact hlog h
  · exact hlog h
  · trivial

lemma MessageOK.mono {k k' : ℕ} (hk : k ≤ k') {m : Message} (h : MessageOK cluster log k m) :
    MessageOK cluster log' k' m :=
  { h with call_lt := h.call_lt.trans_le hk, body := h.body.mono hlog }

lemma PhaseOK.mono (h : PhaseOK cluster log st t) : PhaseOK cluster log' st t := by
  unfold PhaseOK at h ⊢
  split at h
  · exact ⟨hlog h.1, fun x c hc => ⟨hlog (h.2 x c hc).1, (h.2 x c hc).2⟩⟩
  · trivial
  · exact ⟨hlog h.1, h.2⟩
  · exact ⟨h.1, hlog h.2.1, h.2.2.mono hlog⟩
  · exact ⟨h.1.mono hlog, h.2⟩
  · exact ⟨h.1, h.2.1.mono hlog, h.2.2.1, h.2.2.2.1, fun x hx => (h.2.2.2.2 x hx).mono hlog⟩
  · exact ⟨h.1, h.2.1.mono hlog, h.2.2.1, h.2.2.2.mono hlog⟩
  · exact ⟨h.1.mono hlog, h.2.mono hlog⟩

lemma TaskOK.mono {k k' : ℕ} (hk : k ≤ k') (h : TaskOK cluster log k st t) :
    TaskOK cluster log' k' st t :=
  { h with call_lt := h.call_lt.trans_le hk, phase := h.phase.mono hlog }

end Mono

/-! ## The primitive updates keep the invariant -/

variable {cluster : Cluster} {w : World}

lemma Inv.init (cluster : Cluster) : Inv cluster World.init where
  events := by simp [World.init]
  messages := by simp [World.init]
  tasks := by simp [World.init]
  journals := by simp [World.init]
  owned := by simp [World.init]
  adopted_le := by simp [World.init]
  adopted_inj := by simp [World.init]
  started_lt := by simp [World.init]
  started_inj := by simp [World.init]
  lock := by simp [World.init]

section

variable (h : Inv cluster w)
include h

lemma Inv.extend {e : Event} {k : ℕ} (he : EventOK cluster w.log e) (hk : w.nextCall ≤ k)
    (hadopted : ∀ n c, e ≠ .adopted n c)
    (hstarted : ∀ n call hd, e = .queryStarted n call hd → call = w.nextCall ∧ call < k) :
    Inv cluster { w with log := e :: w.log, nextCall := k } := by
  have hsub : w.log ⊆ e :: w.log := subset_cons_self e w.log
  have hadopt : ∀ {n c}, Event.adopted n c ∈ e :: w.log → .adopted n c ∈ w.log := by
    intro n c hc
    exact (mem_cons.mp hc).resolve_left fun heq => hadopted n c heq.symm
  exact {
    events := by
      intro e' he'
      rcases mem_cons.mp he' with rfl | he'
      · exact he.mono hsub
      · exact (h.events e' he').mono hsub
    messages := fun m hm => (h.messages m hm).mono hsub hk
    tasks := fun t ht => (h.tasks t ht).mono hsub hk
    journals := fun n op hop => (h.journals n op hop).mono hsub
    owned := fun n hd c hc => ⟨(h.owned n hd c hc).1, hsub (h.owned n hd c hc).2⟩
    adopted_le := fun n c hc => h.adopted_le n c (hadopt hc)
    adopted_inj := fun n c d hc hd => h.adopted_inj n c d (hadopt hc) (hadopt hd)
    started_lt := by
      intro n call hd hs
      rcases mem_cons.mp hs with heq | hs
      · exact (hstarted n call hd heq.symm).2
      · exact (h.started_lt n call hd hs).trans_le hk
    started_inj := by
      intro n n' call hd hd' hs hs'
      rcases mem_cons.mp hs with heq | hs <;> rcases mem_cons.mp hs' with heq' | hs'
      · cases heq.trans heq'.symm
        rfl
      · exact absurd (hstarted n call hd heq.symm).1 (h.started_lt n' call hd' hs').ne
      · exact absurd (hstarted n' call hd' heq'.symm).1 (h.started_lt n call hd hs).ne
      · exact h.started_inj n n' call hd hd' hs hs'
    lock := h.lock }

lemma Inv.record {e : Event} (he : EventOK cluster w.log e) (hadopted : ∀ n c, e ≠ .adopted n c)
    (hstarted : ∀ n k hd, e ≠ .queryStarted n k hd) : Inv cluster (w.record e) :=
  h.extend he le_rfl hadopted fun n k hd heq => absurd heq (hstarted n k hd)

lemma Inv.send {ms : List Message} (hms : ∀ m ∈ ms, MessageOK cluster w.log w.nextCall m) :
    Inv cluster (w.send ms) :=
  { h with messages := fun m hm => (mem_append.mp hm).elim (hms m) (h.messages m) }

lemma Inv.drop (m : Message) : Inv cluster (w.drop m) :=
  { h with messages := fun m' hm' => h.messages m' (mem_of_mem_erase hm') }

lemma Inv.endTask (call : ℕ) : Inv cluster (w.endTask call) :=
  { h with
    tasks := fun t ht => h.tasks t (mem_of_mem_filter ht)
    lock := fun t ht u hu =>
      h.lock t (mem_of_mem_filter ht) u (mem_of_mem_filter hu) }

lemma Inv.addTask (ht : TaskOK cluster w.log w.nextCall (w.nodes t.node) t)
    (hfree : t.request.isSome → ∀ u ∈ w.tasks, u.node = t.node → ¬ u.request.isSome) :
    Inv cluster { w with tasks := t :: w.tasks } :=
  { h with
    tasks := by
      intro u hu
      rcases mem_cons.mp hu with rfl | hu
      · exact ht
      · exact h.tasks u hu
    lock := by
      intro u hu v hv hnode hru hrv
      rcases mem_cons.mp hu with rfl | hu' <;> rcases mem_cons.mp hv with rfl | hv'
      · rfl
      · exact absurd hrv (hfree hru v hv' hnode.symm)
      · exact absurd hru (hfree hrv u hu' hnode)
      · exact h.lock u hu' v hv' hnode hru hrv }

lemma Inv.free_of_endTask (ht : t ∈ w.tasks) (hreq : t.request.isSome) :
    ∀ u ∈ (w.endTask t.call).tasks, u.node = t.node → ¬ u.request.isSome := by
  intro u hu hnode hru
  obtain ⟨hu, hne⟩ := mem_filter.mp hu
  exact absurd (h.lock u hu t ht hnode hru hreq) (by simpa using hne)

lemma Inv.putTask (ht : t ∈ w.tasks) {p : Phase}
    (hok : TaskOK cluster w.log w.nextCall (w.nodes t.node) (t.moveTo p)) :
    Inv cluster (w.putTask (t.moveTo p)) :=
  (h.endTask t.call).addTask hok fun hreq => h.free_of_endTask ht hreq

lemma Inv.setNode (hown : st.activityOwnership = (w.nodes n).activityOwnership)
    (hops : ∀ op ∈ st.ownershipTakeovers, OperationOK cluster w.log n op)
    (htasks : ∀ t ∈ w.tasks, t.node = n → PhaseOK cluster w.log st t) :
    Inv cluster (w.setNode n st) := by
  have hnodes : ∀ m, ((w.setNode n st).nodes m).activityOwnership =
      (w.nodes m).activityOwnership := by
    intro m
    by_cases hm : m = n
    · simp [World.setNode, hm, hown]
    · simp [World.setNode, hm]
  exact { h with
    tasks := by
      intro t ht
      have hold := h.tasks t ht
      by_cases hn : t.node = n
      · refine { hold with phase := ?_ }
        simpa [World.setNode, hn] using htasks t ht hn
      · simpa [World.setNode, hn] using hold
    journals := by
      intro m op hop
      by_cases hm : m = n
      · subst hm
        exact hops op (by simpa [World.setNode] using hop)
      · exact h.journals m op (by simpa [World.setNode, hm] using hop)
    owned := by
      intro m hd c hc
      rw [hnodes] at hc
      exact h.owned m hd c hc
    adopted_le := by
      intro m c hc
      rw [hnodes]
      exact h.adopted_le m c hc }

end

/-! ## Applying a claim -/

lemma World.apply_cases (env : Env) (w : World) (n : NodeID) (c : ActivityOwnershipClaim)
    (requireParent : Bool) :
    ((w.apply env n c requireParent).1 = w ∧ ((w.apply env n c requireParent).2 →
      ∃ cur, (w.nodes n).activityOwnership c.handle = some cur ∧ cur.claimID = c.claimID)) ∨
    ((w.apply env n c requireParent).1 = (w.setNode n ((w.nodes n).store c)).record (.adopted n c) ∧
      ∀ cur, (w.nodes n).activityOwnership c.handle = some cur → cur.key < c.key) := by
  have hself : w.setNode n (w.nodes n) = w := by
    unfold World.setNode
    congr 1
    funext m
    split_ifs with hm
    · rw [hm]
    · rfl
  have hkeep : ∀ b, (w.nodes n).applyActivityOwnershipClaim env c requireParent = (w.nodes n, b) →
      w.apply env n c requireParent = (w, b) := by
    intro b hb
    unfold World.apply
    rw [hb]
    simp only [hself]
    split_ifs with hif
    · exact absurd hif.1 hif.2
    · rfl
  have hstore : (w.nodes n).applyActivityOwnershipClaim env c requireParent =
        ((w.nodes n).store c, true) → (w.nodes n).activityOwnership c.handle ≠ some c →
      w.apply env n c requireParent =
        ((w.setNode n ((w.nodes n).store c)).record (.adopted n c), true) := by
    intro hb hne
    unfold World.apply
    rw [hb]
    rw [if_pos ⟨by simp [NodeState.store], hne⟩]
  -- One case for each return of the source.
  unfold NodeState.applyActivityOwnershipClaim at hkeep hstore
  by_cases hvalid : validateActivityOwnershipClaim env c = false
  · rw [if_pos hvalid] at hkeep
    rw [hkeep false rfl]
    exact Or.inl ⟨rfl, by simp⟩
  rw [if_neg hvalid] at hkeep hstore
  cases hcur : (w.nodes n).activityOwnership c.handle with
  | none =>
    simp only [hcur] at hkeep hstore
    by_cases hreq : requireParent
    · rw [if_pos hreq] at hkeep
      rw [hkeep false rfl]
      exact Or.inl ⟨rfl, by simp⟩
    · rw [if_neg hreq] at hstore
      rw [hstore rfl (by simp)]
      exact Or.inr ⟨rfl, by simp⟩
  | some cur =>
    simp only [hcur] at hkeep hstore
    by_cases hid : cur.claimID = c.claimID
    · rw [if_pos hid] at hkeep
      rw [hkeep true rfl]
      exact Or.inl ⟨rfl, fun _ => ⟨cur, rfl, hid⟩⟩
    rw [if_neg hid] at hkeep hstore
    by_cases hparent : (requireParent && cur.claimID != c.parentClaimID)
    · rw [if_pos hparent] at hkeep
      rw [hkeep false rfl]
      exact Or.inl ⟨rfl, by simp⟩
    rw [if_neg hparent] at hkeep hstore
    by_cases hnewer : compareActivityOwnership c cur = .newer
    · rw [if_pos hnewer] at hstore
      have hne : some cur ≠ some c := fun heq => hid (by rw [some.inj heq])
      rw [hstore rfl hne]
      refine Or.inr ⟨rfl, fun cur' hcur' => ?_⟩
      cases hcur'
      exact compareActivityOwnership_newer_iff.mp hnewer
    · rw [if_neg hnewer] at hkeep
      rw [hkeep false rfl]
      exact Or.inl ⟨rfl, by simp⟩

lemma Inv.store (h : Inv cluster w) (hn : n ∈ cluster.members) (hc : .minted c ∈ w.log)
    (habove : ∀ cur, (w.nodes n).activityOwnership c.handle = some cur → cur.key < c.key) :
    Inv cluster ((w.setNode n ((w.nodes n).store c)).record (.adopted n c)) := by
  have hsub : w.log ⊆ .adopted n c :: w.log := List.subset_cons_self _ _
  have hlt : ∀ d, .adopted n d ∈ w.log → d.handle = c.handle → d.key < c.key := by
    intro d hd hdh
    obtain ⟨cur, hcur, hle⟩ := h.adopted_le n d hd
    rw [hdh] at hcur
    exact hle.trans_lt (habove cur hcur)
  have hops : ∀ m, ((w.setNode n ((w.nodes n).store c)).nodes m).ownershipTakeovers =
      (w.nodes m).ownershipTakeovers := by
    intro m
    by_cases hm : m = n <;> simp [World.setNode, NodeState.store, hm]
  have hown : ∀ m hd, ((w.setNode n ((w.nodes n).store c)).nodes m).activityOwnership hd =
      if m = n ∧ hd = c.handle then some c else (w.nodes m).activityOwnership hd := by
    intro m hd
    by_cases hm : m = n <;> simp [World.setNode, NodeState.store, hm]
  have hfresh : ∀ m d, Event.adopted m d ∈ .adopted n c :: w.log →
      (m = n ∧ d = c) ∨ .adopted m d ∈ w.log := by
    intro m d hd
    rcases List.mem_cons.mp hd with heq | hd
    · injection heq with h₁ h₂
      exact Or.inl ⟨h₁, h₂⟩
    · exact Or.inr hd
  exact {
    events := by
      intro e he
      rcases List.mem_cons.mp he with rfl | he
      · exact ⟨hn, hsub hc⟩
      · exact (h.events e he).mono hsub
    messages := fun m hm => (h.messages m hm).mono hsub le_rfl
    tasks := by
      intro t ht
      have hold := (h.tasks t ht).mono hsub le_rfl
      exact { hold with phase := hold.phase.congr_journal (hops t.node) }
    journals := by
      intro m op hop
      have hop' : op ∈ (w.nodes m).ownershipTakeovers := by rw [← hops m]; exact hop
      exact (h.journals m op hop').mono hsub
    owned := by
      intro m hd d hd'
      change ((w.setNode n ((w.nodes n).store c)).nodes m).activityOwnership hd = some d at hd'
      rw [hown] at hd'
      split_ifs at hd' with hif
      · obtain ⟨rfl, rfl⟩ := hif
        cases hd'
        exact ⟨rfl, List.mem_cons_self⟩
      · exact ⟨(h.owned m hd d hd').1, hsub (h.owned m hd d hd').2⟩
    adopted_le := by
      intro m d hd
      change ∃ cur, ((w.setNode n ((w.nodes n).store c)).nodes m).activityOwnership d.handle =
        some cur ∧ _
      rw [hown]
      rcases hfresh m d hd with ⟨rfl, rfl⟩ | hd'
      · exact ⟨d, by simp, le_rfl⟩
      · split_ifs with hif
        · obtain ⟨rfl, hdh⟩ := hif
          exact ⟨c, rfl, (hlt d hd' hdh).le⟩
        · exact h.adopted_le m d hd'
    adopted_inj := by
      intro m d d' hd hd' hh hk
      rcases hfresh m d hd with ⟨rfl, rfl⟩ | hold <;>
        rcases hfresh m d' hd' with ⟨hm, rfl⟩ | hold'
      · rfl
      · exact absurd hk (hlt d' hold' hh.symm).ne'
      · subst hm
        exact absurd hk (hlt d hold hh).ne
      · exact h.adopted_inj m d d' hold hold' hh hk
    started_lt := fun m k hd hs => h.started_lt m k hd
      (by simpa [World.record, World.setNode] using hs)
    started_inj := fun m m' k hd hd' hs hs' => h.started_inj m m' k hd hd'
      (by simpa [World.record, World.setNode] using hs)
      (by simpa [World.record, World.setNode] using hs')
    lock := h.lock }

lemma Inv.apply (h : Inv cluster w) (env : Env) (hn : n ∈ cluster.members) (hc : .minted c ∈ w.log)
    (requireParent : Bool) :
    let r := w.apply env n c requireParent
    Inv cluster r.1 ∧ w.log ⊆ r.1.log ∧ r.1.network = w.network ∧ r.1.tasks = w.tasks ∧
      r.1.nextCall = w.nextCall ∧ (r.2 → Witnessed r.1.log n c.claimID) := by
  intro r
  rcases World.apply_cases env w n c requireParent with ⟨hr, hacc⟩ | ⟨hr, habove⟩
  · refine ⟨by rwa [hr], by rw [hr]; exact List.Subset.refl _, by rw [hr], by rw [hr], by rw [hr],
      fun htrue => ?_⟩
    obtain ⟨cur, hcur, hid⟩ := hacc htrue
    rw [hr]
    exact ⟨cur, (h.owned n _ cur hcur).2, hid⟩
  · rw [hr]
    exact ⟨h.store hn hc habove, subset_cons_self _ _, rfl, rfl, rfl,
      fun _ => ⟨c, mem_cons_self, rfl⟩⟩

end StControl.Agent
