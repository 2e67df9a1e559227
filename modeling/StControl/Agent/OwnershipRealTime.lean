import StControl.Agent.OwnershipSafety

/-!
# Ownership decisions never go backwards in real time

Once a claim is decided, a majority `Q` of the cluster has adopted it, and since a node only moves
to larger keys, every node of `Q` stands at or above the claim's key from then on.  A query that
starts later reads each peer after that moment, so whatever a node of `Q` reports to it is at or
above the key, and so is its own claim if it belongs to `Q` itself.  The query's answer matches a
majority, which meets `Q`: either in a peer, which reported the answer's identity, or only in the
querying node, whose own claim took part in the maximum.

`Floor` is this argument as an invariant of the rest of the run, for a fixed decided claim and a
fixed later query.  `Frame` says what a step can do as far as `Floor` is concerned; all actions
but the four that carry a query forward are frames.
-/

namespace StControl.Agent

open Quorum Option ActivityOwnershipClaim List World Run

variable {env : Env} {cluster : Cluster} {w w' : World}
variable {w₁ w₂ w₃ : World} {t : Task} {handle : String} {m : Message} {a : Act}
  {d maximal : ActivityOwnershipClaim} {claims order : List (NodeID × ActivityOwnershipClaim)}
  {k : ℕ} {decision : Decision}

/-! ## What a step can do to a query -/

def Phase.collected : Phase → Option (Bool × List (NodeID × ActivityOwnershipClaim))
  | .collecting localRead claims _ _ => some (localRead, claims)
  | _ => none

def Body.isClaimReply : Body → Bool
  | .queryReply (some _) _ => true
  | _ => false

def Event.isQueryOK : Event → Bool
  | .queryOK _ _ _ _ => true
  | _ => false

/-- Every claim held in `w` is still held in `w'`, or replaced by a larger one. -/
def OwnershipGrows (w w' : World) : Prop :=
  ∀ x h cur, (w.nodes x).activityOwnership h = some cur →
    ∃ cur', (w'.nodes x).activityOwnership h = some cur' ∧ cur.key ≤ cur'.key

structure Extends (w w' : World) : Prop where
  log : w.log ⊆ w'.log
  next : w.nextCall ≤ w'.nextCall
  started : ∀ n call h, .queryStarted n call h ∈ w'.log →
    .queryStarted n call h ∈ w.log ∨ w.nextCall ≤ call

/-- A step that carries no query forward: claims only grow, no reply with a claim and no result
is new, and a query has collected what it had collected before. -/
structure Frame (w w' : World) : Prop extends Extends w w' where
  results : ∀ e ∈ w'.log, e.isQueryOK → e ∈ w.log
  own : OwnershipGrows w w'
  network : ∀ m ∈ w'.network, m.body.isClaimReply → m ∈ w.network
  tasks : ∀ t' ∈ w'.tasks, t'.phase.collected = none ∨ t'.phase.collected = some (false, []) ∨
    ∃ t ∈ w.tasks, t.call = t'.call ∧ t.node = t'.node ∧ t.handle = t'.handle ∧
      t.phase.collected = t'.phase.collected

lemma OwnershipGrows.of_eq (h : ∀ x, (w'.nodes x).activityOwnership =
    (w.nodes x).activityOwnership) :
    OwnershipGrows w w' :=
  fun x hd cur hcur => ⟨cur, by rw [h]; exact hcur, le_rfl⟩

lemma Extends.refl (w : World) : Extends w w :=
  ⟨List.Subset.refl _, le_rfl, fun _ _ _ h => Or.inl h⟩

lemma Extends.trans (h : Extends w₁ w₂) (h' : Extends w₂ w₃) : Extends w₁ w₃ where
  log := List.Subset.trans h.log h'.log
  next := h.next.trans h'.next
  started := by
    intro n call hd hs
    rcases h'.started n call hd hs with hs | hle
    · exact h.started n call hd hs
    · exact Or.inr (h.next.trans hle)

lemma Extends.of_eq (hlog : w'.log = w.log) (hnext : w'.nextCall = w.nextCall) : Extends w w' :=
  ⟨by rw [hlog]; exact List.Subset.refl _, hnext.ge, fun _ _ _ h => Or.inl (hlog ▸ h)⟩

lemma OwnershipGrows.apply (env : Env) (w : World) (n : NodeID) (c : ActivityOwnershipClaim)
    (requireParent : Bool) : OwnershipGrows w (w.apply env n c requireParent).1 := by
  rcases apply_cases env w n c requireParent with ⟨h, -⟩ | ⟨h, habove⟩
  · rw [h]
    exact OwnershipGrows.of_eq fun _ => rfl
  rw [h]
  intro x hd cur hcur
  by_cases hx : x = n ∧ hd = c.handle
  · obtain ⟨rfl, rfl⟩ := hx
    exact ⟨c, by simp [record, setNode, NodeState.store], (habove cur hcur).le⟩
  refine ⟨cur, ?_, le_rfl⟩
  by_cases hxn : x = n
  · have hne : hd ≠ c.handle := fun heq => hx ⟨hxn, heq⟩
    subst hxn
    simpa [record, setNode, NodeState.store, hne] using hcur
  · simpa [record, setNode, hxn] using hcur

lemma Frame.refl (w : World) : Frame w w where
  toExtends := Extends.refl w
  results := fun _ he _ => he
  own := OwnershipGrows.of_eq fun _ => rfl
  network := fun _ hm _ => hm
  tasks := fun t ht => Or.inr (Or.inr ⟨t, ht, rfl, rfl, rfl, rfl⟩)

lemma Frame.apply (env : Env) (w : World) (n : NodeID) (c : ActivityOwnershipClaim)
    (requireParent : Bool) : Frame w (w.apply env n c requireParent).1 := by
  have hown := OwnershipGrows.apply env w n c requireParent
  rcases apply_cases env w n c requireParent with ⟨h, -⟩ | ⟨h, -⟩
  · rw [h]
    exact Frame.refl w
  constructor
  · constructor <;> grind [record, setNode]
  · grind [record, setNode, Event.isQueryOK]
  · exact hown
  · grind [record, setNode]
  · grind [record, setNode]

lemma Frame.trans (h : Frame w₁ w₂) (h' : Frame w₂ w₃) : Frame w₁ w₃ where
  toExtends := h.toExtends.trans h'.toExtends
  results := fun e he hq => h.results e (h'.results e he hq) hq
  own := by
    intro x hd cur hcur
    obtain ⟨cur', hcur', hle⟩ := h.own x hd cur hcur
    obtain ⟨cur'', hcur'', hle'⟩ := h'.own x hd cur' hcur'
    exact ⟨cur'', hcur'', hle.trans hle'⟩
  network := fun m hm hr => h.network m (h'.network m hm hr) hr
  tasks := by
    intro t ht
    rcases h'.tasks t ht with hnone | hfresh | ⟨u, hu, hcall, hnode, hhandle, hcollected⟩
    · exact Or.inl hnone
    · exact Or.inr (Or.inl hfresh)
    rw [← hcollected]
    rcases h.tasks u hu with hnone | hfresh | ⟨v, hv, hc, hn, hh, hcol⟩
    · exact Or.inl hnone
    · exact Or.inr (Or.inl hfresh)
    · exact Or.inr (Or.inr ⟨v, hv, hc.trans hcall, hn.trans hnode, hh.trans hhandle, hcol⟩)

lemma Frame.of_unchanged (hlog : w'.log = w.log) (hnext : w'.nextCall = w.nextCall)
    (own : ∀ x, (w'.nodes x).activityOwnership = (w.nodes x).activityOwnership)
    (network : ∀ m ∈ w'.network, m.body.isClaimReply → m ∈ w.network)
    (tasks : ∀ t' ∈ w'.tasks, t' ∈ w.tasks ∨ t'.phase.collected = none) : Frame w w' where
  toExtends := Extends.of_eq hlog hnext
  results := fun _ he _ => hlog ▸ he
  own := OwnershipGrows.of_eq own
  network := network
  tasks := fun t' ht' => (tasks t' ht').elim
    (fun ht => Or.inr (Or.inr ⟨t', ht, rfl, rfl, rfl, rfl⟩)) Or.inl

/-! ## The frames -/

open Frame

section

variable (w : World)

lemma Frame.setMode (n : NodeID) (independent : Bool) :
    Frame w (w.setNode n { w.nodes n with independent }) := by
  refine of_unchanged rfl rfl ?_ ?_ ?_ <;> grind [setNode]

lemma Frame.record {e : Event} (he : e.isQueryOK = false)
    (hstarted : ∀ n call h, e = .queryStarted n call h → w.nextCall ≤ call) :
    Frame w (w.record e) := by
  refine { Frame.refl w with toExtends := ?_, results := ?_ }
  · constructor <;> grind [record]
  · grind [record]

lemma Frame.endTask (call : ℕ) : Frame w (w.endTask call) := by
  refine of_unchanged rfl rfl ?_ ?_ ?_ <;> grind [endTask]

lemma Frame.drop (m : Message) : Frame w (w.drop m) := by
  refine Frame.of_unchanged rfl rfl ?_ ?_ ?_ <;> grind [World.drop, List.mem_of_mem_erase]

lemma Frame.send {ms : List Message} (hms : ∀ m ∈ ms, m.body.isClaimReply = false) :
    Frame w (w.send ms) := by
  refine of_unchanged rfl rfl ?_ ?_ ?_ <;> grind [send]

lemma Frame.callPeers (cluster : Cluster) (n : NodeID) (call : ℕ) (body : Body)
    (hbody : body.isClaimReply = false) : Frame w (w.send (callPeers cluster n call body)) :=
  Frame.send w fun _ hm => (mem_callPeers hm).2.2.2 ▸ hbody

end

variable {p : Phase} {n : NodeID} {now : ℤ} {call : ℕ}

namespace Frame

lemma putTask (w : World) (t : Task) (hp : p.collected = none) :
    Frame w (w.putTask (t.moveTo p)) := by
  refine of_unchanged rfl rfl ?_ ?_ ?_ <;> grind [putTask, Task.moveTo]

lemma putTask_same (ht : t ∈ w.tasks) (hp : t.phase.collected = p.collected) :
    Frame w (w.putTask (t.moveTo p)) where
  toExtends := Extends.of_eq rfl rfl
  results := fun _ he _ => he
  own := OwnershipGrows.of_eq fun _ => rfl
  network := fun _ hm _ => hm
  tasks := by
    intro u hu
    rcases mem_cons.mp hu with rfl | hu
    · exact Or.inr (Or.inr ⟨t, ht, rfl, rfl, rfl, hp⟩)
    · exact Or.inr (Or.inr ⟨u, mem_of_mem_filter hu, rfl, rfl, rfl, rfl⟩)

lemma newTask (w : World) (n : NodeID) (handle : String) (request : Option OwnershipTakeoverRequest)
    (hp : p.collected = none ∨ p.collected = some (false, [])) :
    Frame w (w.newTask n handle request p) where
  toExtends := ⟨List.Subset.refl _, Nat.le_succ _, fun _ _ _ h => Or.inl h⟩
  results := fun _ he _ => he
  own := OwnershipGrows.of_eq fun _ => rfl
  network := fun _ hm _ => hm
  tasks := by
    intro u hu
    rcases mem_cons.mp hu with rfl | hu
    · exact hp.imp id Or.inl
    · exact Or.inr (Or.inr ⟨u, hu, rfl, rfl, rfl, rfl⟩)

lemma putOperation (w : World) (n : NodeID) (op : OwnershipTakeoverOperation) :
    Frame w (w.setNode n ((w.nodes n).putOperation op)) := by
  refine of_unchanged rfl rfl ?_ ?_ ?_ <;> grind [setNode, NodeState.putOperation]

lemma acknowledgeTakeovers (w : World) (n : NodeID) (operations : List String) :
    Frame w (w.acknowledgeTakeovers n operations) := by
  refine of_unchanged rfl rfl ?_ ?_ ?_ <;> grind [acknowledgeTakeovers, setNode]

lemma restart (w : World) (n : NodeID) : Frame w (w.restart n) := by
  refine of_unchanged rfl rfl ?_ ?_ ?_ <;> grind [restart]

lemma grant {generation epoch : ℤ}
    (h : w.grant env cluster n handle generation epoch now = some w') : Frame w w' := by
  obtain ⟨c, -, rfl⟩ := map_eq_some_iff.mp h
  have happly := (record w (e := .minted c) rfl (by simp)).trans
    (apply env _ n c false)
  have hsend := happly.trans (callPeers _ cluster n
    ((w.record (.minted c)).apply env n c false).1.nextCall (.observe c) rfl)
  exact ⟨⟨hsend.log, hsend.next.trans (Nat.le_succ _), hsend.started⟩, hsend.results, hsend.own,
    hsend.network, hsend.tasks⟩

lemma startQuery (w : World) (cluster : Cluster) (n : NodeID) (handle : String)
    (request : Option OwnershipTakeoverRequest) : Frame w (w.startQuery cluster n handle request) :=
  ((record w rfl (by simp)).trans (callPeers _ cluster n _ (.query handle) rfl)).trans
    (newTask _ n handle request (Or.inr rfl))

lemma resolve (h : w.resolve env cluster n handle = some w') : Frame w w' := by
  unfold World.resolve at h
  split_ifs at h
  cases h
  exact startQuery w cluster n handle none

lemma takeover {request : OwnershipTakeoverRequest}
    (h : w.takeover env cluster n request = some w') : Frame w w' := by
  unfold World.takeover at h
  split at h
  · split at h
    · split_ifs at h
      cases h
      exact newTask w n _ _ (Or.inl rfl)
    · split_ifs at h
      cases h
      exact startQuery w cluster n _ _
  · cases h

lemma observe (h : w.observe env m = some w') : Frame w w' := by
  unfold World.observe at h
  split at h
  · rename_i c hbody
    split_ifs at h
    cases h
    exact ((drop w m).trans (apply env _ m.destination c _)).trans
      (send _ (by simp [Body.isClaimReply]))
  · cases h

lemma answerObserve (h : w.answerObserve m = some w') : Frame w w' := by
  unfold World.answerObserve at h
  split at h
  · split_ifs at h
    cases h
    exact (drop w m).trans (send _ (by simp [Message.reply, Body.isClaimReply]))
  · cases h

lemma failCall {peer : NodeID} (h : w.failCall call peer = some w') : Frame w w' := by
  obtain ⟨t, ht, -, h⟩ := bind_task?_eq_some h
  split at h
  · rename_i hphase
    cases h
    exact putTask_same ht (by rw [hphase]; rfl)
  · cases h
    exact putTask w t rfl
  · cases h

lemma giveUp (h : w.giveUp call = some w') : Frame w w' := by
  obtain ⟨t, -, -, h⟩ := bind_task?_eq_some h
  split at h
  · cases h
    exact endTask w call
  · cases h

lemma readParent (h : w.readParent call = some w') : Frame w w' := by
  obtain ⟨t, -, -, h⟩ := bind_task?_eq_some h
  split at h
  · split at h
    · split_ifs at h <;> cases h
      · exact putTask w t rfl
      · exact endTask w call
    · cases h
      exact endTask w call
  · cases h

lemma applyChild (h : w.applyChild env call now = some w') : Frame w w' := by
  obtain ⟨t, -, -, h⟩ := bind_task?_eq_some h
  split at h
  · split at h
    · rename_i c _
      have happly := (record w (e := .minted c) rfl (by simp)).trans
        (apply env _ t.node c true)
      simp only at h
      split_ifs at h <;> cases h
      · exact happly.trans (putTask _ t rfl)
      · exact happly.trans (endTask _ call)
    · cases h
      exact endTask w call
  · cases h

lemma journal (h : w.journal call now = some w') : Frame w w' := by
  obtain ⟨t, -, -, h⟩ := bind_task?_eq_some h
  split at h
  · split_ifs at h <;> cases h
    · exact endTask w call
    · exact (putOperation w t.node _).trans (putTask _ t rfl)
  · cases h

lemma broadcast (h : w.broadcast cluster call = some w') : Frame w w' := by
  obtain ⟨t, -, -, h⟩ := bind_task?_eq_some h
  split at h
  · rename_i op _
    split_ifs at h <;> cases h
    · exact putTask w t rfl
    · exact (callPeers w cluster t.node call (.observe op.claim) rfl).trans
        (putTask _ t rfl)
  · cases h

lemma finishBroadcast (h : w.finishBroadcast cluster call = some w') : Frame w w' := by
  obtain ⟨t, -, -, h⟩ := bind_task?_eq_some h
  split at h
  · split_ifs at h <;> cases h
    · exact putTask w t rfl
    · exact endTask w call
  · cases h

lemma markSucceeded (h : w.markSucceeded call now = some w') : Frame w w' := by
  obtain ⟨t, -, -, h⟩ := bind_task?_eq_some h
  split at h
  · split at h
    · cases h
      exact (putOperation w t.node _).trans (putTask _ t rfl)
    · cases h
  · cases h

lemma audit {appended : Bool} (h : w.audit call appended now = some w') : Frame w w' := by
  obtain ⟨t, -, -, h⟩ := bind_task?_eq_some h
  split at h
  · split at h
    · cases h
      exact (record w rfl (by simp)).trans (endTask _ call)
    split at h
    · split at h
      · split_ifs at h <;> cases h
        · exact ((putOperation w t.node _).trans (record _ rfl (by simp))).trans
            (endTask _ call)
        · exact endTask w call
      · cases h
        exact endTask w call
    · cases h
      exact endTask w call
  · cases h

end Frame

def Act.isQueryStep : Act → Bool
  | .answerQuery _ _ | .readLocal _ | .receive _ _ | .finishQuery _ _ => true
  | _ => false

lemma frame_step (ha : a.isQueryStep = false) (h : step env cluster w a = some w') :
    Frame w w' := by
  cases a with
  | setMode n independent => exact some.inj h ▸ setMode w n independent
  | grant n handle generation epoch now => exact grant (ite_none_right_eq_some.mp h).2
  | resolve n handle => exact resolve (ite_none_right_eq_some.mp h).2
  | takeover n request => exact takeover (ite_none_right_eq_some.mp h).2
  | lose m => exact some.inj (ite_none_right_eq_some.mp h).2 ▸ drop w m
  | observe m => exact observe h
  | answerObserve m => exact answerObserve h
  | failCall call peer => exact failCall h
  | giveUp call => exact giveUp h
  | readParent call => exact readParent h
  | applyChild call now => exact applyChild h
  | journal call now => exact journal h
  | broadcast call => exact broadcast h
  | finishBroadcast call => exact finishBroadcast h
  | markSucceeded call now => exact markSucceeded h
  | audit call appended now => exact audit h
  | acknowledgeTakeovers n operations => exact some.inj h ▸ acknowledgeTakeovers w n operations
  | restart n => exact some.inj h ▸ restart w n
  | answerQuery m available | readLocal call | receive call m | finishQuery call order => cases ha

/-! ## The floor under a later query -/

/-- From a moment on, the nodes of `Q` stand at or above the claim `c`.  The rest concerns the
query `call`, which had not started then: what nodes of `Q` report to it, what it has collected
and what it returned are at or above `c` as well. -/
structure Floor (c : ActivityOwnershipClaim) (Q : Finset NodeID) (call : ℕ) (w : World) :
    Prop where
  held : ∀ x ∈ Q, ∃ cur, (w.nodes x).activityOwnership c.handle = some cur ∧ c.key ≤ cur.key
  replies : ∀ m ∈ w.network, m.call = call → ∀ d available,
    m.body = .queryReply (some d) available → m.source ∈ Q → d.handle = c.handle → c.key ≤ d.key
  reported : ∀ t ∈ w.tasks, t.call = call → ∀ localRead claims,
    t.phase.collected = some (localRead, claims) → ∀ x d, (x, d) ∈ claims → x ∈ Q →
      d.handle = c.handle → c.key ≤ d.key
  own : ∀ t ∈ w.tasks, t.call = call → ∀ claims, t.phase.collected = some (true, claims) →
    t.node ∈ Q → t.handle = c.handle → ∃ d, (t.node, d) ∈ claims
  results : ∀ n d decision, .queryOK n call d decision ∈ w.log → d.handle = c.handle → c.key ≤ d.key

section Floor

variable {c : ActivityOwnershipClaim} {Q : Finset NodeID} {call : ℕ}

lemma Floor.key_le (h : Floor c Q call w) {x : NodeID} (hx : x ∈ Q) {hd : String}
    (hcur : (w.nodes x).activityOwnership hd = some d) (hhd : hd = c.handle) : c.key ≤ d.key := by
  obtain ⟨cur, hcur', hle⟩ := h.held x hx
  rw [hhd, hcur'] at hcur
  rwa [← some.inj hcur]

lemma Floor.held_of_grows (h : Floor c Q call w) (hgrow : OwnershipGrows w w') :
    ∀ x ∈ Q, ∃ cur, (w'.nodes x).activityOwnership c.handle = some cur ∧ c.key ≤ cur.key := by
  intro x hx
  obtain ⟨cur, hcur, hle⟩ := h.held x hx
  obtain ⟨cur', hcur', hle'⟩ := hgrow x _ cur hcur
  exact ⟨cur', hcur', hle.trans hle'⟩

lemma Floor.frame (h : Floor c Q call w) (hf : Frame w w') : Floor c Q call w' where
  held := h.held_of_grows hf.own
  replies := by
    intro m hm hcall d available hbody
    exact h.replies m (hf.network m hm (by rw [hbody]; rfl)) hcall d available hbody
  reported := by
    intro t' ht' hcall localRead claims hcol x d hd
    rcases hf.tasks t' ht' with hnone | hfresh | ⟨t, ht, hc, -, -, hsame⟩
    · simp [hnone] at hcol
    · rw [hfresh] at hcol
      obtain ⟨-, rfl⟩ := Prod.mk.inj (some.inj hcol)
      cases hd
    · exact h.reported t ht (hc.trans hcall) localRead claims (hsame.trans hcol) x d hd
  own := by
    intro t' ht' hcall claims hcol hnode hhandle
    rcases hf.tasks t' ht' with hnone | hfresh | ⟨t, ht, hc, hn, hh, hsame⟩
    · simp [hnone] at hcol
    · rw [hfresh] at hcol
      cases (Prod.mk.inj (some.inj hcol)).1
    · rw [← hn] at hnode ⊢
      exact h.own t ht (hc.trans hcall) claims (hsame.trans hcol) hnode (hh.trans hhandle)
  results := fun n d decision he => h.results n d decision (hf.results _ he rfl)

lemma Floor.of_fresh (hinv : Inv cluster w) (hcall : w.nextCall ≤ call)
    (hheld : ∀ x ∈ Q, ∃ cur, (w.nodes x).activityOwnership c.handle = some cur ∧ c.key ≤ cur.key) :
    Floor c Q call w where
  held := hheld
  replies := by
    intro m hm hmc
    exact absurd (hinv.messages m hm).call_lt (by omega)
  reported := by
    intro t ht htc
    exact absurd (hinv.tasks t ht).call_lt (by omega)
  own := by
    intro t ht htc
    exact absurd (hinv.tasks t ht).call_lt (by omega)
  results := by
    intro n d decision he
    exact absurd (hinv.started_lt _ _ _ (hinv.events _ he).2.2) (by omega)

section

variable (h : Floor c Q call w)
include h

namespace Floor

lemma answerQuery (hinv : Inv cluster w) {available : Bool}
    (hw' : w.answerQuery env m available = some w') : Floor c Q call w' := by
  unfold World.answerQuery at hw'
  split at hw'
  · rename_i handle hbody
    split_ifs at hw'
    cases hw'
    have hdrop := h.frame (Frame.drop w m)
    refine { hdrop with replies := ?_ }
    intro m' hm' hcall d available' hbody' hsource hhandle
    rcases List.mem_append.mp hm' with hnew | hold
    · -- The new reply reports the peer's current claim.
      obtain rfl := List.mem_singleton.mp hnew
      simp only [Message.reply, Body.queryReply.injEq] at hbody'
      obtain ⟨hhandle', -⟩ := hinv.owned _ _ _ hbody'.1
      exact h.key_le hsource hbody'.1 (hhandle'.symm.trans hhandle)
    · exact hdrop.replies m' hold hcall d available' hbody' hsource hhandle
  · cases hw'

lemma collect (ht : t ∈ w.tasks) {p : Phase} {localRead : Bool}
    (hold : t.phase.collected = some (localRead, claims)) {localRead' : Bool}
    {claims' : List (NodeID × ActivityOwnershipClaim)}
    (hnew : p.collected = some (localRead', claims')) (hsub : claims ⊆ claims')
    (hreported : t.call = call → ∀ x d, (x, d) ∈ claims' → (x, d) ∉ claims → x ∈ Q →
      d.handle = c.handle → c.key ≤ d.key)
    (hown : t.call = call → localRead' → localRead = false → t.node ∈ Q →
      t.handle = c.handle → ∃ d, (t.node, d) ∈ claims') :
    Floor c Q call (w.putTask (t.moveTo p)) := by
  refine { h with reported := ?_, own := ?_ }
  · intro u hu hcall localRead₁ claims₁ hcol x d hd hx hhandle
    rcases mem_cons.mp hu with rfl | hu
    · change p.collected = _ at hcol
      rw [hnew] at hcol
      obtain ⟨-, rfl⟩ := Prod.mk.inj (some.inj hcol)
      by_cases hmem : (x, d) ∈ claims
      · exact h.reported t ht hcall localRead claims hold x d hmem hx hhandle
      · exact hreported hcall x d hd hmem hx hhandle
    · exact h.reported u (mem_of_mem_filter hu) hcall localRead₁ claims₁ hcol x d hd hx hhandle
  · intro u hu hcall claims₁ hcol hnode hhandle
    rcases mem_cons.mp hu with rfl | hu
    · change p.collected = _ at hcol
      rw [hnew] at hcol
      obtain ⟨hread, rfl⟩ := Prod.mk.inj (some.inj hcol)
      cases hlr : localRead with
      | false => exact hown hcall hread hlr hnode hhandle
      | true =>
        rw [hlr] at hold
        obtain ⟨d, hd⟩ := h.own t ht hcall claims hold hnode hhandle
        exact ⟨d, hsub hd⟩
    · exact h.own u (mem_of_mem_filter hu) hcall claims₁ hcol hnode hhandle

lemma readLocal (hinv : Inv cluster w) (hw' : w.readLocal k = some w') : Floor c Q call w' := by
  obtain ⟨t, ht, -, hw'⟩ := bind_task?_eq_some hw'
  split at hw'
  · rename_i claims availability waiting hphase
    have hold : t.phase.collected = some (false, claims) := by rw [hphase]; rfl
    split at hw'
    · rename_i d hcur
      cases hw'
      refine h.collect ht hold rfl (subset_cons_self _ _) ?_ ?_
      · intro _ x d' hd' hnot hx hhandle
        obtain ⟨rfl, rfl⟩ := Prod.mk.inj ((mem_cons.mp hd').resolve_right hnot)
        obtain ⟨hhandle', -⟩ := hinv.owned _ _ _ hcur
        exact h.key_le hx hcur (hhandle'.symm.trans hhandle)
      · intro _ _ _ _ _
        exact ⟨d, mem_cons_self⟩
    · rename_i hcur
      cases hw'
      refine h.collect ht hold rfl (List.Subset.refl _) ?_ ?_
      · intro _ x d hd hnot
        exact absurd hd hnot
      · -- A node of `Q` holds a claim, so its read finds one.
        intro _ _ _ hnode hhandle
        obtain ⟨cur, hcur', -⟩ := h.held t.node hnode
        simp [← hhandle, hcur] at hcur'
  · cases hw'

lemma receive (hw' : w.receive env k m = some w') : Floor c Q call w' := by
  obtain ⟨t, ht, hcall, hw'⟩ := bind_task?_eq_some hw'
  have hdrop := h.frame (drop w m)
  obtain ⟨hm, hw'⟩ := ite_none_right_eq_some.mp hw'
  obtain ⟨hm, hmcall, -, -⟩ := hm
  split at hw'
  · rename_i claims availability waiting reply available hphase hbody
    have hold : t.phase.collected = some (true, claims) := by rw [hphase]; rfl
    have ht' : t ∈ (w.drop m).tasks := ht
    have hkeep : ∀ availability' waiting', Floor c Q call ((w.drop m).putTask
        (t.moveTo (.collecting true claims availability' waiting'))) := fun _ _ =>
      hdrop.frame (putTask_same ht' hold)
    split at hw'
    · split at hw'
      · cases hw'
        exact hkeep _ _
      rename_i d
      split at hw'
      · cases hw'
        refine hdrop.collect ht hold rfl (subset_cons_self _ _) ?_ (by simp)
        intro htcall x d' hd' hnot hx hhandle
        obtain ⟨rfl, rfl⟩ := Prod.mk.inj ((mem_cons.mp hd').resolve_right hnot)
        exact h.replies m hm (by omega) d' available hbody hx hhandle
      · cases hw'
        exact hkeep _ _
    · cases hw'
  · have hkeep : ∀ op nodes waiting, Floor c Q call ((w.drop m).putTask
        (t.moveTo (.broadcasting op nodes waiting))) := fun _ _ _ =>
      hdrop.frame (putTask _ t rfl)
    split at hw'
    · split at hw'
      · split at hw' <;> rw [← some.inj hw'] <;> exact hkeep _ _ _
      · cases hw'
        exact hkeep _ _ _
    · cases hw'
  · cases hw'

lemma settle (t : Task) (decision : Decision)
    (hle : t.call = call → maximal.handle = c.handle → c.key ≤ maximal.key) :
    Floor c Q call (w.settle t maximal decision) := by
  have hrec : Floor c Q call (w.record (.queryOK t.node t.call maximal decision)) := by
    refine { h with results := ?_ }
    intro n d decision' he hhandle
    rcases List.mem_cons.mp he with heq | he
    · injection heq with _ hcall hd _
      rw [hd] at hhandle ⊢
      exact hle hcall.symm hhandle
    · exact h.results n d decision' he hhandle
  unfold World.settle
  split
  · exact hrec.frame (Frame.endTask _ t.call)
  · split_ifs
    · exact hrec.frame (Frame.putTask _ t rfl)
    · exact hrec.frame (Frame.endTask _ t.call)

section

variable (hinv : Inv cluster w) (hcf : CollisionFree w.log)
  (hQ : IsQuorum cluster.members.toFinset Q)
include hinv hcf hQ

lemma key_le_maximal (ht : t ∈ w.tasks) (hcall : t.call = call)
    (hcol : t.phase.collected = some (true, claims))
    (hclaims : ∀ x d, (x, d) ∈ claims → .adopted x d ∈ w.log ∧ d.handle = t.handle) {y : NodeID}
    (hmax : (y, maximal) ∈ claims) (hall : ∀ x d, (x, d) ∈ claims → d.key ≤ maximal.key)
    (hmatch : IsQuorum cluster.members.toFinset (matchingNodes t.node claims maximal))
    (hhandle : maximal.handle = c.handle) : c.key ≤ maximal.key := by
  have hthandle : t.handle = c.handle := (hclaims y maximal hmax).2.symm.trans hhandle
  obtain ⟨x, hxQ, hx⟩ := hQ.exists_common hmatch
  rcases mem_matchingNodes.mp hx with rfl | ⟨d, hmem, hid⟩
  · obtain ⟨d, hmem⟩ := h.own t ht hcall claims hcol hxQ hthandle
    have hd : c.key ≤ d.key := h.reported t ht hcall true claims hcol t.node d hmem hxQ
      ((hclaims _ d hmem).2.trans hthandle)
    exact hd.trans (hall _ d hmem)
  · have hd : c.key ≤ d.key := h.reported t ht hcall true claims hcol x d hmem hxQ
      ((hclaims x d hmem).2.trans hthandle)
    have hfacts := hcf.facts_eq (hinv.events _ (hclaims x d hmem).1).2
      (hinv.events _ (hclaims y maximal hmax).1).2 hid
    rwa [key_eq_of_facts hfacts] at hd

lemma finishQuery (hw' : w.finishQuery env cluster k order = some w') : Floor c Q call w' := by
  obtain ⟨t, ht, -, hw'⟩ := bind_task?_eq_some hw'
  have hok := hinv.tasks t ht
  split at hw'
  · rename_i claims availability hphase
    obtain ⟨-, hclaims⟩ := hok.phase_of hphase
    obtain ⟨hperm, hw'⟩ := ite_none_right_eq_some.mp hw'
    split at hw'
    · rename_i maximal hmax
      obtain ⟨hmem, hall⟩ := maximalOwnership_spec hmax
      obtain ⟨⟨y, d⟩, hyd, hd⟩ := mem_map.mp hmem
      obtain rfl : d = maximal := hd
      have happly := h.frame (apply env w t.node d false)
      simp only at hw'
      split_ifs at hw' with hdecided <;> cases hw'
      · refine happly.settle t _ fun hcall hhandle => ?_
        have hsub := hinv.matchingNodes_subset hok.member
          (fun x d hd => (hclaims x d hd).1) d
        refine h.key_le_maximal hinv hcf hQ ht hcall (by rw [hphase]; rfl) hclaims
          (hperm.mem_iff.mp hyd) ?_ ⟨hsub, ?_⟩ hhandle
        · intro x e he
          exact hall e (mem_map.mpr ⟨(x, e), hperm.mem_iff.mpr he, rfl⟩)
        · rw [← Cluster.required_eq_majority hok.member]
          exact hdecided.2
      · exact happly.frame (endTask _ k)
    · cases hw'
      exact h.frame (endTask w k)
  · cases hw'

lemma step (hw' : step env cluster w a = some w') : Floor c Q call w' := by
  cases a with
  | answerQuery m available => exact h.answerQuery hinv hw'
  | readLocal k => exact h.readLocal hinv hw'
  | receive k m => exact h.receive hw'
  | finishQuery k order => exact h.finishQuery hinv hcf hQ hw'
  | _ => exact h.frame (frame_step rfl hw')

end

end Floor

end

end Floor

/-! ## Runs -/

lemma Extends.settle (w : World) (t : Task) (maximal : ActivityOwnershipClaim)
    (decision : Decision) : Extends w (w.settle t maximal decision) := by
  have hrec : Extends w (w.record (.queryOK t.node t.call maximal decision)) := by
    constructor <;> grind [World.record]
  unfold World.settle
  split
  · exact hrec.trans (Extends.of_eq rfl rfl)
  · split_ifs <;> exact hrec.trans (Extends.of_eq rfl rfl)

variable {call : ℕ} {acts : List Act} {c : ActivityOwnershipClaim}

lemma Extends.receive (h : w.receive env call m = some w') : Extends w w' := by
  obtain ⟨t, -, -, h⟩ := World.bind_task?_eq_some h
  apply Extends.of_eq <;> grind [World.drop, World.putTask]

lemma Extends.finishQuery (h : w.finishQuery env cluster call order = some w') : Extends w w' := by
  obtain ⟨t, -, -, h⟩ := bind_task?_eq_some h
  split at h
  · split at h
    · split at h
      · rename_i maximal _
        have happly := (Frame.apply env w t.node maximal false).toExtends
        simp only at h
        split_ifs at h <;> cases h
        · exact happly.trans (Extends.settle _ t maximal _)
        · exact happly.trans (Extends.of_eq rfl rfl)
      · cases h
        exact Extends.of_eq rfl rfl
    · cases h
  · cases h

lemma extends_step (h : step env cluster w a = some w') : Extends w w' := by
  cases a with
  | answerQuery m available =>
    apply Extends.of_eq <;> grind [step, World.answerQuery, World.drop, World.send]
  | readLocal call =>
    obtain ⟨t, -, -, h⟩ := World.bind_task?_eq_some h
    apply Extends.of_eq <;> grind [World.putTask]
  | receive call m => exact Extends.receive h
  | finishQuery call order => exact Extends.finishQuery h
  | _ => exact (frame_step rfl h).toExtends

lemma extends_run (h : run (step env cluster) w acts = some w') : Extends w w' :=
  run_rel Extends.refl (fun _ _ _ => Extends.trans) (fun _ _ _ => extends_step) h

lemma floor_run {Q : Finset NodeID} (hQ : IsQuorum cluster.members.toFinset Q)
    (hinv : Inv cluster w) (h : Floor c Q call w) (hrun : run (step env cluster) w acts = some w')
    (hcf : CollisionFree w'.log) : Floor c Q call w' := by
  induction acts generalizing w with
  | nil => exact some.inj hrun ▸ h
  | cons a acts ih =>
    obtain ⟨v, hstep, hrest⟩ := run_cons_eq_some.mp hrun
    have hcf' : CollisionFree w.log :=
      hcf.mono (List.Subset.trans (extends_step hstep).log (extends_run hrest).log)
    exact ih (inv_step hinv hstep) (h.step hinv hcf' hQ hstep) hrest

lemma Extends.nextCall_le_of_later (hext : Extends w w') (hinv' : Inv cluster w') {n : NodeID}
    (hok : .queryOK n call d decision ∈ w'.log) (hlater : .queryStarted n call d.handle ∉ w.log) :
    w.nextCall ≤ call :=
  (hext.started n call d.handle (hinv'.events _ hok).2.2).resolve_left hlater

lemma Inv.held_of_decided (hinv : Inv cluster w) (hcf : CollisionFree w.log)
    (hc : Decided w.log c) :
    ∃ Q, IsQuorum cluster.members.toFinset Q ∧ ∀ x ∈ Q, ∃ cur,
      (w.nodes x).activityOwnership c.handle = some cur ∧ c.key ≤ cur.key := by
  obtain ⟨hmint, Q, hQ, hw⟩ := hinv.of_decided hc
  refine ⟨Q, hQ, fun x hx => ?_⟩
  obtain ⟨d, hd, -, hhandle, hkey⟩ := hinv.adopted_of_witnessed hcf hmint (hw x hx)
  obtain ⟨cur, hcur, hle⟩ := hinv.adopted_le x d hd
  exact ⟨cur, hhandle ▸ hcur, hkey ▸ hle⟩

lemma key_le_of_later (hinv : Inv cluster w) (hrun : run (step env cluster) w acts = some w')
    (hcf : CollisionFree w'.log) (hc : Decided w.log c) {n : NodeID}
    (hok : .queryOK n call d decision ∈ w'.log) (hlater : .queryStarted n call d.handle ∉ w.log)
    (hhandle : d.handle = c.handle) : c.key ≤ d.key := by
  have hext := extends_run hrun
  have hinv' : Inv cluster w' := run_invariant (fun _ _ _ h hs => inv_step h hs) hinv hrun
  obtain ⟨Q, hQ, hheld⟩ := hinv.held_of_decided (hcf.mono hext.log) hc
  have hfresh := hext.nextCall_le_of_later hinv' hok hlater
  have hfloor := floor_run hQ hinv (Floor.of_fresh hinv hfresh hheld) hrun hcf
  exact hfloor.results n d decision hok hhandle

/-- **Ownership decisions never go backwards.**  Once a claim is decided in `w`, every query for
its handle that starts after `w` and returns OK returns a claim whose (controller generation,
activity epoch, takeover sequence) is at least that of the decided one.  So once a takeover is
committed, a query that starts later, of the previous owner or of any other node, never returns
OK on the superseded claim. -/
theorem decisions_never_go_backwards (env : Env) (cluster : Cluster) (acts acts' : List Act)
    (w w' : World) (hrun : run (step env cluster) init acts = some w)
    (hrun' : run (step env cluster) w acts' = some w') (hcf : CollisionFree w'.log) :
    (∀ c n call d decision, Decided w.log c → .queryOK n call d decision ∈ w'.log →
      .queryStarted n call d.handle ∉ w.log → d.handle = c.handle → c.key ≤ d.key) ∧
    (∀ m c n call d decision, .takeoverCommitted m c ∈ w.log →
      .queryOK n call d decision ∈ w'.log → .queryStarted n call d.handle ∉ w.log →
      d.claimID ≠ c.parentClaimID) := by
  have hinv : Inv cluster w := inv_run hrun
  refine ⟨fun c n call d decision hc hok hlater hhandle =>
    key_le_of_later hinv hrun' hcf hc hok hlater hhandle, ?_⟩
  intro m c n call d decision hcommit hok hlater hparent
  have hext := extends_run hrun'
  have hinv' : Inv cluster w' := run_invariant (fun _ _ _ h hs => inv_step h hs) hinv hrun'
  have hdecided : Decided w.log c := ⟨_, hcommit, by simp [Event.decides]⟩
  obtain ⟨hmint, -, hkind⟩ := hinv.events _ hcommit
  obtain ⟨p, hp, hpid, hph, hpg, hpe, hps⟩ := (hinv.events _ hmint).2.2 hkind
  -- The superseded claim is the parent, which stands one step below the takeover.
  have hfacts := hcf.facts_eq (hinv'.events _ hok).1 (hext.log hp) (hparent.trans hpid.symm)
  have hdk := key_eq_of_facts hfacts
  have hdh := (handle_eq_of_facts hfacts).trans hph
  have hle := key_le_of_later hinv hrun' hcf hdecided hok hlater hdh
  have hlt : p.key < c.key :=
    key_lt_iff.mpr (Or.inr ⟨hpg, Or.inr ⟨hpe, by omega⟩⟩)
  exact absurd (hdk ▸ hle) hlt.not_ge

namespace ThreeAgents

/-- Node 1 returns and asks the quorum about `alice`. -/
def returnActs : List Act :=
  [.setMode 1 true, .resolve 1 "alice", .readLocal 2,
    .answerQuery ⟨1, 2, 2, .query "alice"⟩ true, .answerQuery ⟨1, 3, 2, .query "alice"⟩ true,
    .receive 2 ⟨2, 1, 2, .queryReply (some taken) true⟩,
    .receive 2 ⟨3, 1, 2, .queryReply (some taken) true⟩,
    .finishQuery 2 [(1, granted), (3, taken), (2, taken)]]

end ThreeAgents

open ThreeAgents in
/-- The previous owner asks after the takeover is committed: its query returns the takeover, as
the theorem says, although it starts from the superseded claim. -/
theorem decisions_never_go_backwards_threeAgents : ∃ w w',
    run (step digests agents) init takeoverActs = some w ∧
      run (step digests agents) w returnActs = some w' ∧ CollisionFree w'.log ∧
      .takeoverCommitted 2 taken ∈ w.log ∧
      .queryOK 1 2 taken .ownerAvailable ∈ w'.log ∧ .queryStarted 1 2 "alice" ∉ w.log ∧
      taken.claimID ≠ taken.parentClaimID ∧
      ∀ n call d decision, .queryOK n call d decision ∈ w'.log →
        .queryStarted n call d.handle ∉ w.log → d.handle = "alice" → taken.key ≤ d.key := by
  obtain ⟨w, hw, hdecided, hcommit, hlater, w', hw', hcf, hok⟩ :
      ∃ w ∈ run (step digests agents) init takeoverActs, Decided w.log taken ∧
        .takeoverCommitted 2 taken ∈ w.log ∧ .queryStarted 1 2 "alice" ∉ w.log ∧
        ∃ w' ∈ run (step digests agents) w returnActs, CollisionFree w'.log ∧
          .queryOK 1 2 taken .ownerAvailable ∈ w'.log := by decide +kernel
  have hthm := decisions_never_go_backwards _ _ _ _ w w' hw hw' hcf
  exact ⟨w, w', hw, hw', hcf, hcommit, hok, hlater, hthm.2 2 taken 1 2 taken _ hcommit hok hlater,
    fun n call d decision h₁ h₂ h₃ => hthm.1 taken n call d decision hdecided h₁ h₂ h₃⟩

end StControl.Agent
