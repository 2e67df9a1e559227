import StControl.Agent.OwnershipPreservation

/-!
# At most one claim is decided at each place of the order

A claim is *decided* when a takeover for it is reported committed or a quorum query returns OK
for it.  A decided claim was adopted by a majority under its identity (`EventOK`), two majorities
share a node, and a node adopts at most one claim per handle and key in its whole history
(`Inv.adopted_inj`).  So two decided claims about one handle with the same controller generation,
activity epoch and takeover sequence have the same identity, whatever the grants, queries,
takeovers, retries, restarts and message losses in between
(`decided_claims_unique`).

Identities are digests.  `CollisionFree` is the assumption that the claims minted in the run have
different digests unless they agree on every hashed fact.
-/

namespace StControl.Agent

open Quorum ActivityOwnershipClaim

variable {env : Env} {cluster : Cluster} {w : World}

def Event.decides (c : ActivityOwnershipClaim) : Event → Bool
  | .takeoverCommitted _ d => d = c
  | .queryOK _ _ d _ => d = c
  | _ => false

def Decided (log : List Event) (c : ActivityOwnershipClaim) : Prop :=
  ∃ e ∈ log, e.decides c

instance (log : List Event) (c : ActivityOwnershipClaim) : Decidable (Decided log c) :=
  inferInstanceAs (Decidable (∃ e ∈ log, e.decides c))

/-- If both events mint a claim and the claims have one identity, then they have the same
facts. -/
def Event.mintsAgree : Event → Event → Bool
  | .minted c, .minted d => c.claimID != d.claimID || c.facts == d.facts
  | _, _ => true

def CollisionFree (log : List Event) : Prop :=
  ∀ e ∈ log, ∀ e' ∈ log, e.mintsAgree e'

instance (log : List Event) : Decidable (CollisionFree log) :=
  inferInstanceAs (Decidable (∀ e ∈ log, ∀ e' ∈ log, e.mintsAgree e'))

variable {c d : ActivityOwnershipClaim}

lemma CollisionFree.facts_eq {log : List Event} (h : CollisionFree log) (hc : .minted c ∈ log)
    (hd : .minted d ∈ log) (hid : c.claimID = d.claimID) : c.facts = d.facts := by
  simpa [Event.mintsAgree, hid] using h _ hc _ hd

lemma CollisionFree.mono {log log' : List Event} (hlog : log ⊆ log') (h : CollisionFree log') :
    CollisionFree log :=
  fun e he e' he' => h e (hlog he) e' (hlog he')

lemma Inv.of_decided (h : Inv cluster w) (hc : Decided w.log c) :
    .minted c ∈ w.log ∧ HeldByQuorum cluster w.log c.claimID := by
  obtain ⟨e, he, hdec⟩ := hc
  have hok := h.events e he
  cases e with
  | takeoverCommitted n d | queryOK n call d decision =>
    obtain rfl : d = c := by simpa [Event.decides] using hdec
    exact ⟨hok.1, hok.2.1⟩
  | _ => simp [Event.decides] at hdec

section

variable (h : Inv cluster w) (hcf : CollisionFree w.log)
include h hcf

lemma Inv.adopted_of_witnessed {n : NodeID} (hc : .minted c ∈ w.log)
    (hw : Witnessed w.log n c.claimID) :
    ∃ d, .adopted n d ∈ w.log ∧ d.claimID = c.claimID ∧ d.handle = c.handle ∧ d.key = c.key := by
  obtain ⟨d, hd, hid⟩ := hw
  have hfacts := hcf.facts_eq (h.events _ hd).2 hc hid
  exact ⟨d, hd, hid, handle_eq_of_facts hfacts, key_eq_of_facts hfacts⟩

lemma Inv.decided_unique (hc : Decided w.log c) (hd : Decided w.log d)
    (hhandle : c.handle = d.handle) (hkey : c.key = d.key) : c.claimID = d.claimID := by
  obtain ⟨hcm, Q, hQ, hcw⟩ := h.of_decided hc
  obtain ⟨hdm, R, hR, hdw⟩ := h.of_decided hd
  obtain ⟨n, hnQ, hnR⟩ := hQ.exists_common hR
  obtain ⟨c', hc', hcid, hch, hck⟩ := h.adopted_of_witnessed hcf hcm (hcw n hnQ)
  obtain ⟨d', hd', hdid, hdh, hdk⟩ := h.adopted_of_witnessed hcf hdm (hdw n hnR)
  have heq : c' = d' := h.adopted_inj n c' d' hc' hd' (by rw [hch, hdh, hhandle])
    (by rw [hck, hdk, hkey])
  rw [← hcid, ← hdid, heq]

lemma Inv.key_eq_of_parent (hc : .minted c ∈ w.log) (hd : .minted d ∈ w.log)
    (hck : c.kind = .userConfirmedTakeover) (hdk : d.kind = .userConfirmedTakeover)
    (hparent : c.parentClaimID = d.parentClaimID) : c.handle = d.handle ∧ c.key = d.key := by
  obtain ⟨p, hp, hpid, hph, hpg, hpe, hps⟩ := (h.events _ hc).2.2 hck
  obtain ⟨q, hq, hqid, hqh, hqg, hqe, hqs⟩ := (h.events _ hd).2.2 hdk
  have hfacts := hcf.facts_eq hp hq (by rw [hpid, hqid, hparent])
  have hkeys := key_eq_iff.mp
    (key_eq_of_facts hfacts)
  refine ⟨?_, key_eq_iff.mpr ⟨?_, ?_, ?_⟩⟩
  · rw [← hph, ← hqh, handle_eq_of_facts hfacts]
  · rw [← hpg, ← hqg, hkeys.1]
  · rw [← hpe, ← hqe, hkeys.2.1]
  · rw [hps, hqs, hkeys.2.2]

end

/-- **Ownership decisions are unique.**  In every run of a cluster of any size, two decided
claims with the same handle, controller generation, activity epoch and takeover sequence have the
same identity; in particular at most one child of a given parent claim is ever decided. -/
theorem decided_claims_unique (env : Env) (cluster : Cluster) (acts : List Act) (w : World)
    (hrun : Run.run (step env cluster) World.init acts = some w) (hcf : CollisionFree w.log) :
    (∀ c d, Decided w.log c → Decided w.log d → c.handle = d.handle →
      c.controllerGeneration = d.controllerGeneration → c.activityEpoch = d.activityEpoch →
      c.takeoverSequence = d.takeoverSequence → c.claimID = d.claimID) ∧
    (∀ c d, Decided w.log c → Decided w.log d → c.kind = .userConfirmedTakeover →
      d.kind = .userConfirmedTakeover → c.parentClaimID = d.parentClaimID →
      c.claimID = d.claimID) := by
  have hinv : Inv cluster w := inv_run hrun
  constructor
  · intro c d hc hd hhandle hgen hepoch hseq
    exact hinv.decided_unique hcf hc hd hhandle
      (key_eq_iff.mpr ⟨hgen, hepoch, hseq⟩)
  · intro c d hc hd hck hdk hparent
    obtain ⟨hhandle, hkey⟩ := hinv.key_eq_of_parent hcf (hinv.of_decided hc).1
      (hinv.of_decided hd).1 hck hdk hparent
    exact hinv.decided_unique hcf hc hd hhandle hkey

/-! ## A run of three agents

Node 1 is granted the activity of `alice` and tells its peers, then it goes away.  Node 2 asks
the quorum, takes over, and its takeover is committed with the vote of node 3.  The digests are
the SHA-256 values of the two canonical texts. -/

namespace ThreeAgents

def grantID : String := "5ddb644af7a933441caac34ab00e9ed97791796bfdff7f92dcb1240d441147e6"

def takeoverID : String := "b4fb77679e1892d1b7bbe7aac9bf96e21e78335a21796923d6abafbef3a470ba"

def operation : String := "6f1c2d3e-4a5b-4c6d-8e7f-901234567890"

def digests : Env where
  digest text :=
    if text = "stcontrol-activity-owner:v1\nalice\n1\n1\n1\n0\ncontroller_grant\n\n" then grantID
    else takeoverID
  toLower text := text

def agents : Cluster := ⟨[1, 2, 3], by decide⟩

def granted : ActivityOwnershipClaim :=
  { claimID := grantID, handle := "alice", ownerNodeID := 1, controllerGeneration := 1,
    activityEpoch := 1, takeoverSequence := 0, kind := .controllerGrant, parentClaimID := "",
    operationID := "", observedAt := 1700000000000 }

def taken : ActivityOwnershipClaim :=
  { claimID := takeoverID, handle := "alice", ownerNodeID := 2, controllerGeneration := 1,
    activityEpoch := 1, takeoverSequence := 1, kind := .userConfirmedTakeover,
    parentClaimID := grantID, operationID := operation, observedAt := 1700000001000 }

def takeoverActs : List Act :=
  [.grant 1 "alice" 1 1 1700000000000,
    .observe ⟨1, 2, 0, .observe granted⟩, .observe ⟨1, 3, 0, .observe granted⟩,
    .restart 1, .setMode 2 true,
    .takeover 2 ⟨"alice", grantID, operation⟩,
    .readLocal 1, .failCall 1 1, .answerQuery ⟨2, 3, 1, .query "alice"⟩ true,
    .receive 1 ⟨3, 2, 1, .queryReply (some granted) true⟩,
    .finishQuery 1 [(3, granted), (2, granted)],
    .readParent 1, .applyChild 1 1700000001000, .journal 1 1700000001000, .broadcast 1,
    .observe ⟨2, 3, 1, .observe taken⟩, .answerObserve ⟨2, 3, 1, .observed taken true⟩,
    .receive 1 ⟨3, 2, 1, .observeReply (some taken) true⟩,
    .finishBroadcast 1, .markSucceeded 1 1700000002000, .audit 1 true 1700000002000]

end ThreeAgents

open ThreeAgents in
theorem decided_claims_unique_threeAgents : ∃ w,
    Run.run (step digests agents) World.init takeoverActs = some w ∧
      CollisionFree w.log ∧ Decided w.log granted ∧ Decided w.log taken ∧
      ∀ c, Decided w.log c → c.kind = .userConfirmedTakeover → c.parentClaimID = grantID →
        c.claimID = takeoverID := by
  obtain ⟨w, hw, hcf, hgranted, htaken⟩ :
      ∃ w ∈ Run.run (step digests agents) World.init takeoverActs,
        CollisionFree w.log ∧ Decided w.log granted ∧ Decided w.log taken := by decide +kernel
  refine ⟨w, hw, hcf, hgranted, htaken, fun c hc hkind hparent => ?_⟩
  exact (decided_claims_unique _ _ _ w hw hcf).2 c taken hc htaken hkind rfl hparent

end StControl.Agent
