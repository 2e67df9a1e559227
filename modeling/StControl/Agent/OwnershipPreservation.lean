import Mathlib.Data.Finset.Dedup
import StControl.Agent.OwnershipInvariant

/-!
# Every step of the ownership protocol keeps the invariant

One lemma for each action of `Act`, assembled from the primitive updates of
`OwnershipInvariant`, then the step lemma `inv_step` and the run lemma `inv_run`.
-/

namespace StControl.Agent

open Quorum Option Event List NodeState Phase World

variable {env : Env} {cluster : Cluster} {w w' : World}
variable {available : Bool}

/-! ## Facts about the helpers -/

variable {call : ℕ} {t : Task} {st : NodeState} {op : OwnershipTakeoverOperation} {n self : NodeID}
  {m : Message} {log : List Event} {claims : List (NodeID × ActivityOwnershipClaim)}
  {maximal c : ActivityOwnershipClaim} {handle : String} {now : ℤ}

lemma World.task?_eq_some (h : w.task? call = some t) : t ∈ w.tasks ∧ t.call = call :=
  ⟨mem_of_find?_eq_some h, by simpa using List.find?_some h⟩

lemma World.bind_task?_eq_some {f : Task → Option World}
    (h : (w.task? call).bind f = some w') : ∃ t ∈ w.tasks, t.call = call ∧ f t = some w' := by
  obtain ⟨t, ht, hf⟩ := bind_eq_some_iff.mp h
  exact ⟨t, (task?_eq_some ht).1, (task?_eq_some ht).2, hf⟩

lemma NodeState.operation?_eq_some {i : String} (h : st.operation? i = some op) :
    op ∈ st.ownershipTakeovers ∧ op.operationID = i :=
  ⟨mem_of_find?_eq_some h, by simpa using List.find?_some h⟩

lemma NodeState.operation?_putOperation (st : NodeState) (op : OwnershipTakeoverOperation) :
    (st.putOperation op).operation? op.operationID = some op := by
  simp [operation?, putOperation]

lemma NodeState.mem_putOperation {op' : OwnershipTakeoverOperation}
    (h : op' ∈ (st.putOperation op).ownershipTakeovers) : op' = op ∨ op' ∈ st.ownershipTakeovers :=
  (mem_cons.mp h).imp id mem_of_mem_filter

lemma World.mem_callPeers {body : Body} (h : m ∈ callPeers cluster n call body) :
    m.source = n ∧ m.destination ∈ cluster.members ∧ m.call = call ∧ m.body = body := by
  obtain ⟨p, hp, rfl⟩ := mem_map.mp h
  exact ⟨rfl, mem_of_mem_erase hp, rfl, rfl⟩

lemma Cluster.required_eq_majority (hn : n ∈ cluster.members) :
    cluster.required n = majority cluster.members.toFinset.card := by
  have hlen : (cluster.peers n).length = cluster.members.length - 1 :=
    length_erase_of_mem hn
  rw [toFinset_card_of_nodup cluster.nodup, Cluster.required, majority, hlen]
  omega

lemma HeldByQuorum.of_card (hn : n ∈ cluster.members) {i : String} {nodes : Finset NodeID}
    (hsub : nodes ⊆ cluster.members.toFinset) (hw : ∀ x ∈ nodes, Witnessed log x i)
    (hcard : cluster.required n ≤ nodes.card) : HeldByQuorum cluster log i := by
  rw [Cluster.required_eq_majority hn] at hcard
  exact ⟨nodes, ⟨hsub, hcard⟩, hw⟩

lemma maximalStep_spec (maximal claim : ActivityOwnershipClaim) (conflict : Bool) :
    ∃ m b, maximalStep (some (maximal, conflict)) claim = some (m, b) ∧
      (m = maximal ∨ m = claim) ∧ maximal.key ≤ m.key ∧ claim.key ≤ m.key := by
  by_cases hnewer : compareActivityOwnership claim maximal = .newer
  · refine ⟨claim, false, by simp [maximalStep, hnewer], Or.inr rfl, ?_, le_rfl⟩
    exact (compareActivityOwnership_newer_iff.mp hnewer).le
  have hle : claim.key ≤ maximal.key :=
    le_of_not_gt fun hlt => hnewer (compareActivityOwnership_newer_iff.mpr hlt)
  cases hc : compareActivityOwnership claim maximal with
  | newer => exact absurd hc hnewer
  | conflict => exact ⟨maximal, true, by simp [maximalStep, hc], Or.inl rfl, le_rfl, hle⟩
  | older | same => exact ⟨maximal, conflict, by simp [maximalStep, hc], Or.inl rfl, le_rfl, hle⟩

lemma foldl_maximalStep (claims : List ActivityOwnershipClaim)
    (maximal : ActivityOwnershipClaim) (conflict : Bool) :
    ∃ m b, claims.foldl maximalStep (some (maximal, conflict)) = some (m, b) ∧
      (m = maximal ∨ m ∈ claims) ∧ maximal.key ≤ m.key ∧ ∀ c ∈ claims, c.key ≤ m.key := by
  induction claims generalizing maximal conflict with
  | nil => exact ⟨maximal, conflict, rfl, Or.inl rfl, le_rfl, by simp⟩
  | cons claim claims ih =>
    obtain ⟨m₁, b₁, hstep, hmem₁, hle₁, hclaim₁⟩ := maximalStep_spec maximal claim conflict
    obtain ⟨m, b, hfold, hmem, hle, hall⟩ := ih m₁ b₁
    refine ⟨m, b, by rw [foldl_cons, hstep, hfold], ?_, hle₁.trans hle, ?_⟩
    · rcases hmem with rfl | hmem
      · exact hmem₁.imp id fun h => by simp [h]
      · exact Or.inr (mem_cons_of_mem _ hmem)
    · intro c hc
      rcases mem_cons.mp hc with rfl | hc
      · exact hclaim₁.trans hle
      · exact hall c hc

lemma maximalOwnership_spec {claims : List ActivityOwnershipClaim} {m : ActivityOwnershipClaim}
    {b : Bool} (h : maximalOwnership claims = some (m, b)) :
    m ∈ claims ∧ ∀ c ∈ claims, c.key ≤ m.key := by
  unfold maximalOwnership at h
  cases claims with
  | nil => simp at h
  | cons claim claims =>
    obtain ⟨m', b', hfold, hmem, hle, hall⟩ := foldl_maximalStep claims claim false
    change claims.foldl maximalStep (some (claim, false)) = some (m, b) at h
    rw [hfold] at h
    obtain ⟨rfl, rfl⟩ := Prod.mk.inj (some.inj h)
    refine ⟨hmem.elim (fun h => by simp [h]) (mem_cons_of_mem _), fun c hc => ?_⟩
    rcases mem_cons.mp hc with rfl | hc
    · exact hle
    · exact hall c hc

lemma mem_matchingNodes {x : NodeID} : x ∈ matchingNodes self claims maximal ↔
      x = self ∨ ∃ c, (x, c) ∈ claims ∧ c.claimID = maximal.claimID := by
  simp [matchingNodes]

lemma mintOK_grant (hvalid : validateActivityOwnershipClaim env c) (hseq : c.takeoverSequence = 0)
    (hkind : c.kind = .controllerGrant) : MintOK log c := by
  refine ⟨takeoverSequence_nonneg_of_valid hvalid, ?_, fun hk => ?_⟩
  · unfold InInt64
    omega
  · simp [hkind] at hk

lemma mintOK_takeover {parent : ActivityOwnershipClaim}
    (hvalid : validateActivityOwnershipClaim env c) (hkind : c.kind = .userConfirmedTakeover)
    (hparent : .minted parent ∈ log) (hparentOK : MintOK log parent)
    (hid : c.parentClaimID = parent.claimID) (hhandle : c.handle = parent.handle)
    (hgen : c.controllerGeneration = parent.controllerGeneration)
    (hepoch : c.activityEpoch = parent.activityEpoch)
    (hseq : c.takeoverSequence = int64Succ parent.takeoverSequence) : MintOK log c := by
  obtain ⟨hnonneg, hrange, -⟩ := hparentOK
  have hpos := takeoverSequence_pos_of_valid hvalid hkind
  refine ⟨hpos.le, hseq ▸ int64Succ_inInt64 _, fun _ => ⟨parent, hparent, hid.symm,
    hhandle.symm, hgen.symm, hepoch.symm, ?_⟩⟩
  rw [hseq] at hpos ⊢
  exact int64Succ_eq hnonneg hrange hpos

lemma witnessed_of_mem_matchingNodes (hclaims : ∀ x c, (x, c) ∈ claims → .adopted x c ∈ log)
    (hown : Witnessed log self maximal.claimID) :
    ∀ x ∈ matchingNodes self claims maximal, Witnessed log x maximal.claimID := by
  intro x hx
  rcases mem_matchingNodes.mp hx with rfl | ⟨c, hc, hid⟩
  · exact hown
  · exact ⟨c, hclaims x c hc, hid⟩

lemma find?_filter_of_find? {α : Type*} {p q : α → Bool} {x : α} {l : List α}
    (h : l.find? p = some x) (hq : q x) : (l.filter q).find? p = some x := by
  induction l with
  | nil => simp at h
  | cons y l ih =>
    rw [List.find?_cons] at h
    cases hp : p y with
    | true =>
      simp only [hp, some.injEq] at h
      subst h
      simp [hq, hp]
    | false =>
      simp only [hp] at h
      rw [filter_cons]
      split_ifs
      · rw [List.find?_cons, hp]
        exact ih h
      · exact ih h

/-! ## Moving tasks -/

lemma TaskOK.moveTo {k : ℕ} {p : Phase}
    (h : TaskOK cluster log k st t) (hreq : p.isTakeover → t.request.isSome)
    (hphase : PhaseOK cluster log st (t.moveTo p)) : TaskOK cluster log k st (t.moveTo p) :=
  { h with takeover := hreq, phase := hphase }

lemma TaskOK.phase_of {k : ℕ} {p : Phase} (h : TaskOK cluster log k st t) (hp : t.phase = p) :
    PhaseOK cluster log st (t.moveTo p) := by
  subst hp
  exact h.phase

namespace Inv

variable (h : Inv cluster w)
include h

lemma bumpCall : Inv cluster { w with nextCall := w.nextCall + 1 } :=
  { h with
    messages := fun m hm => (h.messages m hm).mono (List.Subset.refl _) (Nat.le_succ _)
    tasks := fun t ht => (h.tasks t ht).mono (List.Subset.refl _) (Nat.le_succ _)
    started_lt := fun n k hd hs => (h.started_lt n k hd hs).trans (Nat.lt_succ_self _) }

lemma recordStarted (n : NodeID) (handle : String) : Inv cluster { w with
      log := .queryStarted n w.nextCall handle :: w.log, nextCall := w.nextCall + 1 } := by
  refine h.extend trivial (Nat.le_succ _) (by simp) fun m k hd heq => ?_
  cases heq
  exact ⟨rfl, Nat.lt_succ_self _⟩

/-! ## The actions -/

lemma setMode (n : NodeID) (independent : Bool) :
    Inv cluster (w.setNode n { w.nodes n with independent }) := by
  refine h.setNode rfl (h.journals n) fun t ht hn => ?_
  subst hn
  exact (h.tasks t ht).phase.congr_journal rfl

section

variable (hn : n ∈ cluster.members)
include hn

lemma grant {generation epoch : ℤ}
    (hw' : w.grant env cluster n handle generation epoch now = some w') : Inv cluster w' := by
  obtain ⟨c, hc, rfl⟩ := map_eq_some_iff.mp hw'
  obtain ⟨hvalid, -, -, -, -, hseq, hkind, -, -⟩ := makeActivityOwnershipClaim_eq_some hc
  have hmint : Inv cluster (w.record (.minted c)) :=
    h.record (mintOK_grant hvalid hseq hkind) (by simp) (by simp)
  have hmem : minted c ∈ (w.record (.minted c)).log := mem_cons_self
  obtain ⟨hr, hlog, -, -, -, -⟩ := hmint.apply env hn hmem false
  refine send hr.bumpCall fun m hm => ?_
  obtain ⟨hsrc, hdst, hcall, hbody⟩ := mem_callPeers hm
  refine ⟨hsrc ▸ hn, hdst, hcall ▸ Nat.lt_succ_self _, ?_⟩
  unfold BodyOK
  rw [hbody]
  exact hlog hmem

lemma startQuery {request : Option OwnershipTakeoverRequest}
    (hreq : ∀ r, request = some r → r.handle = handle)
    (hfree : request.isSome → ∀ u ∈ w.tasks, u.node = n → ¬ u.request.isSome) :
    Inv cluster (w.startQuery cluster n handle request) := by
  have hstarted : queryStarted n w.nextCall handle ∈
      .queryStarted n w.nextCall handle :: w.log := mem_cons_self
  refine ((h.recordStarted n handle).send fun m hm => ?_).addTask ?_ hfree
  · obtain ⟨hsrc, hdst, hcall, hbody⟩ := mem_callPeers hm
    refine ⟨hsrc ▸ hn, hdst, hcall ▸ Nat.lt_succ_self _, ?_⟩
    unfold BodyOK
    rwa [hbody, hsrc, hcall]
  · exact {
      member := hn, call_lt := Nat.lt_succ_self _, request_handle := hreq
      takeover := by simp [isTakeover]
      phase := ⟨hstarted, by simp⟩ }

lemma resolve (hw' : w.resolve env cluster n handle = some w') : Inv cluster w' := by
  unfold World.resolve at hw'
  split_ifs at hw'
  cases hw'
  exact h.startQuery hn (by simp) (by simp)

lemma takeover {request : OwnershipTakeoverRequest}
    (hw' : w.takeover env cluster n request = some w') : Inv cluster w' := by
  obtain ⟨hguard, hw'⟩ := ite_none_right_eq_some.mp hw'
  -- The mutex: no other takeover is being served on the node.
  have hfree : ∀ u ∈ w.tasks, u.node = n → ¬ u.request.isSome := by
    intro u hu hnode hru
    simp only [Bool.and_eq_true, List.all_eq_true] at hguard
    simpa [hnode, hru] using hguard.2 u hu
  split at hw'
  · rename_i op hop
    obtain ⟨hmem, hid⟩ := operation?_eq_some hop
    split_ifs at hw' with hmatch
    cases hw'
    refine addTask h.bumpCall ?_ fun _ => hfree
    exact {
      member := hn, call_lt := Nat.lt_succ_self _
      request_handle := fun r hr => by rw [← some.inj hr]
      takeover := fun _ => rfl
      phase := ⟨h.journals n op hmem, fun _ => hid ▸ hop⟩ }
  · split_ifs at hw'
    cases hw'
    exact h.startQuery hn (fun r hr => by rw [← some.inj hr]) fun _ => hfree

end

lemma answerQuery (hw' : w.answerQuery env m available = some w') : Inv cluster w' := by
  unfold World.answerQuery at hw'
  split at hw'
  · rename_i handle hbody
    split_ifs at hw' with hm
    cases hw'
    have hok := h.messages m hm.1
    refine (h.drop m).send fun m' hm' => ?_
    obtain rfl := List.mem_singleton.mp hm'
    refine ⟨hok.destination, hok.source, hok.call_lt, ?_⟩
    cases hcur : (w.nodes m.destination).activityOwnership handle with
    | none => trivial
    | some c =>
      obtain ⟨hhandle, hadopted⟩ := h.owned m.destination handle c hcur
      have hstarted := hok.body
      unfold BodyOK at hstarted
      rw [hbody] at hstarted
      exact ⟨hadopted, hhandle ▸ hstarted⟩
  · cases hw'

lemma observe (hw' : w.observe env m = some w') : Inv cluster w' := by
  unfold World.observe at hw'
  split at hw'
  · rename_i c hbody
    split_ifs at hw' with hm
    cases hw'
    have hok := h.messages m hm.1
    have hmint : Event.minted c ∈ w.log := by
      have hb := hok.body
      unfold BodyOK at hb
      rwa [hbody] at hb
    obtain ⟨hr, hlog, -, -, hnext, -⟩ := (h.drop m).apply env hok.destination hmint
      (c.kind = .userConfirmedTakeover)
    refine hr.send fun m' hm' => ?_
    obtain rfl := List.mem_singleton.mp hm'
    exact ⟨hok.source, hok.destination, hnext ▸ hok.call_lt, hlog hmint⟩
  · cases hw'

lemma answerObserve (hw' : w.answerObserve m = some w') : Inv cluster w' := by
  unfold World.answerObserve at hw'
  split at hw'
  · rename_i c accepted hbody
    split_ifs at hw' with hm
    cases hw'
    have hok := h.messages m hm
    refine (h.drop m).send fun m' hm' => ?_
    obtain rfl := List.mem_singleton.mp hm'
    refine ⟨hok.destination, hok.source, hok.call_lt, ?_⟩
    cases hcur : (w.nodes m.destination).activityOwnership c.handle with
    | none => trivial
    | some cur => exact (h.owned m.destination c.handle cur hcur).2
  · cases hw'

lemma readLocal (hw' : w.readLocal call = some w') : Inv cluster w' := by
  obtain ⟨t, ht, -, hw'⟩ := bind_task?_eq_some hw'
  have hok := h.tasks t ht
  split at hw'
  · rename_i claims availability waiting hphase
    obtain ⟨hstarted, hclaims⟩ := hok.phase_of hphase
    split at hw'
    · rename_i c hcur
      cases hw'
      refine h.putTask ht (hok.moveTo (by simp [isTakeover]) ⟨hstarted, ?_⟩)
      intro x d hd
      rcases mem_cons.mp hd with heq | hd
      · obtain ⟨rfl, rfl⟩ := Prod.mk.inj heq
        exact ⟨(h.owned t.node t.handle d hcur).2, (h.owned t.node t.handle d hcur).1⟩
      · exact hclaims x d hd
    · cases hw'
      exact h.putTask ht (hok.moveTo (by simp [isTakeover]) ⟨hstarted, hclaims⟩)
  · cases hw'

lemma queryReply_spec (hm : m ∈ w.network) (hstarted : .queryStarted t.node t.call t.handle ∈ w.log)
    (hcall : m.call = t.call) (hbody : m.body = .queryReply (some c) available) :
    .adopted m.source c ∈ w.log ∧ c.handle = t.handle := by
  have hb := (h.messages m hm).body
  unfold BodyOK at hb
  rw [hbody] at hb
  obtain ⟨hadopted, hstarted'⟩ := hb
  rw [hcall] at hstarted'
  exact ⟨hadopted, h.started_inj _ _ t.call _ _ hstarted' hstarted⟩

lemma receive (hw' : w.receive env call m = some w') : Inv cluster w' := by
  obtain ⟨t, ht, hcall, hw'⟩ := bind_task?_eq_some hw'
  have hok := h.tasks t ht
  obtain ⟨hm, hw'⟩ := ite_none_right_eq_some.mp hw'
  obtain ⟨hm, hmcall, -, -⟩ := hm
  split at hw'
  · rename_i claims availability waiting reply available hphase hbody
    obtain ⟨hstarted, hclaims⟩ := hok.phase_of hphase
    have hkeep : ∀ availability' waiting', Inv cluster ((w.drop m).putTask
        (t.moveTo (.collecting true claims availability' waiting'))) := fun _ _ =>
      (h.drop m).putTask ht
        (hok.moveTo (by simp [isTakeover]) ⟨hstarted, hclaims⟩)
    split at hw'
    · split at hw'
      · cases hw'
        exact hkeep _ _
      rename_i c
      split at hw'
      · cases hw'
        refine (h.drop m).putTask ht
          (hok.moveTo (by simp [isTakeover]) ⟨hstarted, ?_⟩)
        intro x d hd
        rcases mem_cons.mp hd with heq | hd
        · obtain ⟨rfl, rfl⟩ := Prod.mk.inj heq
          exact h.queryReply_spec hm hstarted (hmcall.trans hcall.symm) hbody
        · exact hclaims x d hd
      · cases hw'
        exact hkeep _ _
    · cases hw'
  · rename_i op nodes waiting reply accepted hphase hbody
    obtain ⟨huns, hop, hfind, hsub, hwit⟩ := hok.phase_of hphase
    have hreq : t.request.isSome := hok.takeover (by rw [hphase]; rfl)
    have hkeep : ∀ waiting', Inv cluster ((w.drop m).putTask
        (t.moveTo (.broadcasting op nodes waiting'))) := fun _ =>
      (h.drop m).putTask ht (hok.moveTo (fun _ => hreq) ⟨huns, hop, hfind, hsub, hwit⟩)
    split at hw'
    · split at hw'
      · rename_i c
        split at hw'
        · rename_i hacc
          cases hw'
          refine (h.drop m).putTask ht
            (hok.moveTo (fun _ => hreq) ⟨huns, hop, hfind, ?_, ?_⟩)
          · exact Finset.insert_subset
              (mem_toFinset.mpr (h.messages m hm).source) hsub
          · intro x hx
            rcases Finset.mem_insert.mp hx with rfl | hx
            · have hadopted := (h.messages m hm).body
              unfold BodyOK at hadopted
              rw [hbody] at hadopted
              simp only [Bool.and_eq_true, beq_iff_eq] at hacc
              exact ⟨c, hadopted, hacc.1.2⟩
            · exact hwit x hx
        · cases hw'
          exact hkeep _
      · cases hw'
        exact hkeep _
    · cases hw'
  · cases hw'

lemma failCall {peer : NodeID} (hw' : w.failCall call peer = some w') : Inv cluster w' := by
  obtain ⟨t, ht, -, hw'⟩ := bind_task?_eq_some hw'
  have hok := h.tasks t ht
  split at hw'
  · rename_i claims availability waiting hphase
    have hcollect := hok.phase_of hphase
    cases hw'
    exact h.putTask ht (hok.moveTo (by simp [isTakeover]) hcollect)
  · rename_i op nodes waiting hphase
    have hcast := hok.phase_of hphase
    cases hw'
    exact h.putTask ht (hok.moveTo (fun _ => hok.takeover (by rw [hphase]; rfl)) hcast)
  · cases hw'

lemma giveUp (hw' : w.giveUp call = some w') : Inv cluster w' := by
  obtain ⟨t, -, -, hw'⟩ := bind_task?_eq_some hw'
  split at hw'
  · cases hw'
    exact h.endTask call
  · cases hw'

lemma settle (ht : t ∈ w.tasks) {decision : Decision}
    (he : EventOK cluster w.log (.queryOK t.node t.call maximal decision)) :
    Inv cluster (w.settle t maximal decision) := by
  have hrec := h.record he (by simp) (by simp)
  unfold World.settle
  split
  · exact hrec.endTask t.call
  rename_i request hreq
  split_ifs
  · exact hrec.putTask ht ((hrec.tasks t ht).moveTo (fun _ => by rw [hreq]; rfl) trivial)
  · exact hrec.endTask t.call

lemma matchingNodes_subset (hself : self ∈ cluster.members)
    (hclaims : ∀ x c, (x, c) ∈ claims → .adopted x c ∈ w.log) (maximal : ActivityOwnershipClaim) :
    matchingNodes self claims maximal ⊆ cluster.members.toFinset := by
  intro x hx
  rw [List.mem_toFinset]
  rcases mem_matchingNodes.mp hx with rfl | ⟨c, hc, -⟩
  · exact hself
  · exact (h.events _ (hclaims x c hc)).1

lemma finishQuery {order : List (NodeID × ActivityOwnershipClaim)}
    (hw' : w.finishQuery env cluster call order = some w') : Inv cluster w' := by
  obtain ⟨t, ht, -, hw'⟩ := bind_task?_eq_some hw'
  have hok := h.tasks t ht
  split at hw'
  · rename_i claims availability hphase
    obtain ⟨hstarted, hclaims⟩ := hok.phase_of hphase
    obtain ⟨hperm, hw'⟩ := ite_none_right_eq_some.mp hw'
    split at hw'
    · rename_i maximal hmax
      obtain ⟨⟨x, c⟩, hmem, hc⟩ := mem_map.mp (maximalOwnership_spec hmax).1
      obtain rfl : c = maximal := hc
      have hadopted := hclaims x c (hperm.mem_iff.mp hmem)
      have hmint : minted c ∈ w.log := (h.events _ hadopted.1).2
      obtain ⟨hr, hlog, -, htasks, -, hwit⟩ := h.apply env hok.member hmint false
      simp only at hw'
      split at hw'
      · rename_i hdecided
        obtain ⟨hacc, hcard⟩ := hdecided
        cases hw'
        have hsub := h.matchingNodes_subset hok.member (fun y d hd => (hclaims y d hd).1) c
        have hall := witnessed_of_mem_matchingNodes
          (fun y d hd => hlog (hclaims y d hd).1) (hwit hacc)
        refine hr.settle (htasks ▸ ht) ⟨hlog hmint, ?_, ?_⟩
        · exact HeldByQuorum.of_card hok.member hsub hall hcard
        · rw [hadopted.2]
          exact hlog hstarted
      · cases hw'
        exact hr.endTask call
    · cases hw'
      exact h.endTask call
  · cases hw'

lemma readParent (hw' : w.readParent call = some w') : Inv cluster w' := by
  obtain ⟨t, ht, -, hw'⟩ := bind_task?_eq_some hw'
  have hok := h.tasks t ht
  split at hw'
  · rename_i request hphase hreq
    split at hw'
    · rename_i parent hcur
      split at hw'
      · cases hw'
        obtain ⟨hhandle, hadopted⟩ := h.owned t.node t.handle parent hcur
        exact h.putTask ht (hok.moveTo (fun _ => by rw [hreq]; rfl) ⟨hadopted, hhandle⟩)
      · cases hw'
        exact h.endTask call
    · cases hw'
      exact h.endTask call
  · cases hw'

lemma applyChild (hw' : w.applyChild env call now = some w') : Inv cluster w' := by
  obtain ⟨t, ht, -, hw'⟩ := bind_task?_eq_some hw'
  have hok := h.tasks t ht
  split at hw'
  · rename_i parent request hphase hreq
    obtain ⟨hadopted, hphandle⟩ := hok.phase_of hphase
    have hpmint : minted parent ∈ w.log := (h.events _ hadopted).2
    split at hw'
    · rename_i c hmake
      obtain ⟨hvalid, hhandle, -, hgen, hepoch, hseq, hkind, hparent, -⟩ :=
        makeActivityOwnershipClaim_eq_some hmake
      have hhandle' : c.handle = parent.handle := by
        rw [hhandle, hok.request_handle request hreq]
        exact hphandle.symm
      have hmint : MintOK w.log c := mintOK_takeover hvalid hkind hpmint (h.events _ hpmint)
        hparent hhandle' hgen hepoch hseq
      have hrec : Inv cluster (w.record (.minted c)) := h.record hmint (by simp) (by simp)
      have hmem : minted c ∈ (w.record (.minted c)).log := mem_cons_self
      obtain ⟨hr, hlog, -, htasks, -, hwit⟩ := hrec.apply env hok.member hmem true
      simp only at hw'
      split at hw'
      · rename_i hacc
        cases hw'
        have ht' : t ∈ ((w.record (.minted c)).apply env t.node c true).1.tasks := htasks ▸ ht
        exact hr.putTask ht' ((hr.tasks t ht').moveTo (fun _ => by rw [hreq]; rfl)
          ⟨hkind, hlog hmem, hwit hacc⟩)
      · cases hw'
        exact hr.endTask call
    · cases hw'
      exact h.endTask call
  · cases hw'

lemma putOperation (ht : t ∈ w.tasks) (hreq : t.request.isSome)
    (hop : OperationOK cluster w.log t.node op) :
    Inv cluster ((w.endTask t.call).setNode t.node ((w.nodes t.node).putOperation op)) := by
  refine (h.endTask t.call).setNode rfl ?_ fun u hu hnode => ?_
  · intro op' hop'
    rcases mem_putOperation hop' with rfl | hop'
    · exact hop
    · exact h.journals t.node op' hop'
  · have hnone := h.free_of_endTask ht hreq u hu hnode
    have huOK := h.tasks u (mem_of_mem_filter hu)
    have hphase := huOK.phase
    -- A task without a request is still collecting, and that stage does not see the journal.
    unfold PhaseOK at hphase ⊢
    cases hp : u.phase with
    | collecting localRead claims availability waiting =>
      rwa [hp] at hphase
    | _ => exact absurd (huOK.takeover (by rw [hp]; rfl)) hnone

lemma journal (hw' : w.journal call now = some w') : Inv cluster w' := by
  obtain ⟨t, ht, -, hw'⟩ := World.bind_task?_eq_some hw'
  have hok := h.tasks t ht
  split at hw'
  · rename_i c request hphase hreq
    obtain ⟨hkind, hmint, hwit⟩ := hok.phase_of hphase
    split at hw'
    · cases hw'
      exact h.endTask call
    cases hw'
    have hisSome : t.request.isSome := by rw [hreq]; rfl
    have hop : OperationOK cluster w.log t.node
        { operationID := request.operationID, parentClaimID := c.parentClaimID, claim := c,
          succeeded := false, audited := false, updatedAt := now } :=
      ⟨hkind, hmint, hwit, by simp⟩
    refine (h.putOperation ht hisSome hop).addTask ?_ fun hr => h.free_of_endTask ht hr
    have hfind : ∀ op, (((w.endTask t.call).setNode t.node
        ((w.nodes t.node).putOperation op)).nodes t.node).operation? op.operationID =
          some op := by
      intro op
      simp [World.setNode, NodeState.operation?_putOperation]
    exact { hok with
      takeover := fun _ => hisSome
      phase := ⟨hop, fun _ => hfind _⟩ }
  · cases hw'

lemma broadcast (hw' : w.broadcast cluster call = some w') : Inv cluster w' := by
  obtain ⟨t, ht, hcall, hw'⟩ := bind_task?_eq_some hw'
  have hok := h.tasks t ht
  split at hw'
  · rename_i op hphase
    have hreq : t.request.isSome := hok.takeover (by rw [hphase]; rfl)
    obtain ⟨hop, hfind⟩ := hok.phase_of hphase
    split at hw'
    · rename_i hsucc
      cases hw'
      exact h.putTask ht (hok.moveTo (fun _ => hreq) ⟨hop, hop.held hsucc⟩)
    rename_i hsucc
    rw [Bool.not_eq_true] at hsucc
    cases hw'
    have hsend : Inv cluster (w.send (callPeers cluster t.node call (.observe op.claim))) := by
      refine h.send fun m hm => ?_
      obtain ⟨hsrc, hdst, hmcall, hbody⟩ := mem_callPeers hm
      refine ⟨hsrc ▸ hok.member, hdst, ?_, ?_⟩
      · rw [hmcall, ← hcall]
        exact hok.call_lt
      · unfold BodyOK
        rw [hbody]
        exact hop.minted
    refine hsend.putTask ht (hok.moveTo (fun _ => hreq) ⟨hsucc, hop, hfind hsucc, ?_, ?_⟩)
    · simpa using hok.member
    · intro x hx
      rw [Finset.mem_singleton.mp hx]
      exact hop.witnessed
  · cases hw'

lemma finishBroadcast (hw' : w.finishBroadcast cluster call = some w') : Inv cluster w' := by
  obtain ⟨t, ht, -, hw'⟩ := bind_task?_eq_some hw'
  have hok := h.tasks t ht
  split at hw'
  · rename_i op nodes waiting hphase
    obtain ⟨huns, hop, hfind, hsub, hwit⟩ := hok.phase_of hphase
    split at hw'
    · rename_i hcard
      cases hw'
      exact h.putTask ht (hok.moveTo (fun _ => hok.takeover (by rw [hphase]; rfl))
        ⟨huns, hop, hfind, HeldByQuorum.of_card hok.member hsub hwit hcard⟩)
    · cases hw'
      exact h.endTask call
  · cases hw'

lemma markSucceeded (hw' : w.markSucceeded call now = some w') : Inv cluster w' := by
  obtain ⟨t, ht, -, hw'⟩ := bind_task?_eq_some hw'
  have hok := h.tasks t ht
  split at hw'
  · rename_i op hphase
    obtain ⟨-, hop, hfind, hheld⟩ := hok.phase_of hphase
    -- The entry read back is the one that was broadcast.
    rw [hfind] at hw'
    cases hw'
    have hreq : t.request.isSome := hok.takeover (by rw [hphase]; rfl)
    have hop' : OperationOK cluster w.log t.node
        { op with succeeded := true, updatedAt := now } :=
      ⟨hop.kind, hop.minted, hop.witnessed, fun _ => hheld⟩
    refine (h.putOperation ht hreq hop').addTask ?_ fun hr => h.free_of_endTask ht hr
    exact { hok with
      takeover := fun _ => hreq
      phase := ⟨hop', hheld⟩ }
  · cases hw'

lemma audit {appended : Bool} (hw' : w.audit call appended now = some w') : Inv cluster w' := by
  obtain ⟨t, ht, hcall, hw'⟩ := bind_task?_eq_some hw'
  have hok := h.tasks t ht
  split at hw'
  · rename_i op hphase
    obtain ⟨hop, hheld⟩ := hok.phase_of hphase
    have hev : EventOK cluster w.log (.takeoverCommitted t.node op.claim) :=
      ⟨hop.minted, hheld, hop.kind⟩
    split at hw'
    · cases hw'
      exact (h.record hev (by simp) (by simp)).endTask call
    split at hw'
    · split at hw'
      · rename_i current hcur
        split at hw'
        · rename_i hmatch
          rw [← some.inj hw', ← hcall]
          have hcurOK := h.journals t.node current (operation?_eq_some hcur).1
          have hreq : t.request.isSome := hok.takeover (by rw [hphase]; rfl)
          have hcurOK' : OperationOK cluster w.log t.node
              { current with audited := true, updatedAt := now } :=
            { hcurOK with }
          exact (h.putOperation ht hreq hcurOK').record hev (by simp) (by simp)
        · cases hw'
          exact h.endTask call
      · cases hw'
        exact h.endTask call
    · cases hw'
      exact h.endTask call
  · cases hw'

lemma acknowledgeTakeovers (n : NodeID) (operations : List String) :
    Inv cluster (w.acknowledgeTakeovers n operations) := by
  refine h.setNode rfl (fun op hop => h.journals n op (mem_of_mem_filter hop))
    fun t ht hn => ?_
  subst hn
  have hok := h.tasks t ht
  have hphase := hok.phase
  -- Only operations that have succeeded leave the journal, and no task waits on one.
  have hfind : ∀ op : OwnershipTakeoverOperation, op.succeeded = false →
      (w.nodes t.node).operation? op.operationID = some op →
      operation? { w.nodes t.node with ownershipTakeovers :=
        (w.nodes t.node).ownershipTakeovers.filter fun o =>
          !(o.operationID ∈ operations && o.succeeded && o.audited) } op.operationID = some op :=
    fun op huns hop => find?_filter_of_find? hop (by simp [huns])
  unfold PhaseOK at hphase ⊢
  cases hp : t.phase with
  | journaled op =>
    rw [hp] at hphase
    exact ⟨hphase.1, fun huns => hfind op huns (hphase.2 huns)⟩
  | broadcasting op nodes waiting | acknowledged op =>
    rw [hp] at hphase
    exact ⟨hphase.1, hphase.2.1, hfind op hphase.1 hphase.2.2.1, hphase.2.2.2⟩
  | _ =>
    rwa [hp] at hphase

lemma restart (n : NodeID) : Inv cluster (w.restart n) :=
  { h with
    messages := fun m hm => h.messages m (mem_of_mem_filter hm)
    tasks := fun t ht => h.tasks t (mem_of_mem_filter ht)
    lock := fun t ht u hu =>
      h.lock t (mem_of_mem_filter ht) u (mem_of_mem_filter hu) }

end Inv

/-! ## Steps and runs -/

lemma inv_step {a : Act} (h : Inv cluster w) (hw' : step env cluster w a = some w') :
    Inv cluster w' := by
  cases a with
  | setMode n independent => exact some.inj hw' ▸ h.setMode n independent
  | grant n handle generation epoch now =>
    obtain ⟨hn, hw'⟩ := ite_none_right_eq_some.mp hw'
    exact h.grant hn hw'
  | resolve n handle =>
    obtain ⟨hn, hw'⟩ := ite_none_right_eq_some.mp hw'
    exact h.resolve hn hw'
  | takeover n request =>
    obtain ⟨hn, hw'⟩ := ite_none_right_eq_some.mp hw'
    exact h.takeover hn hw'
  | lose m =>
    obtain ⟨-, hw'⟩ := ite_none_right_eq_some.mp hw'
    exact some.inj hw' ▸ h.drop m
  | answerQuery m available => exact h.answerQuery hw'
  | observe m => exact h.observe hw'
  | answerObserve m => exact h.answerObserve hw'
  | readLocal call => exact h.readLocal hw'
  | receive call m => exact h.receive hw'
  | failCall call peer => exact h.failCall hw'
  | giveUp call => exact h.giveUp hw'
  | finishQuery call order => exact h.finishQuery hw'
  | readParent call => exact h.readParent hw'
  | applyChild call now => exact h.applyChild hw'
  | journal call now => exact h.journal hw'
  | broadcast call => exact h.broadcast hw'
  | finishBroadcast call => exact h.finishBroadcast hw'
  | markSucceeded call now => exact h.markSucceeded hw'
  | audit call appended now => exact h.audit hw'
  | acknowledgeTakeovers n operations => exact some.inj hw' ▸ h.acknowledgeTakeovers n operations
  | restart n => exact some.inj hw' ▸ h.restart n

lemma inv_run {acts : List Act} (hrun : Run.run (step env cluster) init acts = some w) :
    Inv cluster w :=
  Run.run_invariant (fun _ _ _ h hs => inv_step h hs) (Inv.init cluster) hrun

end StControl.Agent
