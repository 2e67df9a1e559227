import StControl.Foundations.Run
import StControl.Store.Schema

/-!
# Claims of a relay transfer

A request claims the upload or the download of a relay transfer for a while, and then completes or
releases it.  All requests of a side carry the same token, so the row does not say whose claim it
is.  The completion of an upload and the renewals look at the lease.  The releases and the
completion of a download look at the state alone: a request that has lost its claim ends the claim
that came after its own (`lost_claim_ends_another`).
-/

namespace StControl.Store

open Run Option

inductive RelayState
  | prepared | uploading | stored | downloading | consumed | expired | failed
  deriving DecidableEq

/-- `state NOT IN ('consumed','expired','failed')`. -/
def RelayState.live (state : RelayState) : Bool :=
  state ∉ [.consumed, .expired, .failed]

/-- A row of `relay_transfers`.  `current` says that its generation is the active one. -/
structure RelayTransfer where
  state : RelayState
  current : Bool
  maxCiphertextBytes : ℕ
  expiresAt : Time
  plaintextBytes : Option ℕ
  archiveSHA256 : Option Digest
  ciphertextBytes : Option ℕ
  ciphertextSHA256 : Option Digest
  (uploadLeaseUntil downloadLeaseUntil : Option Time)
  deriving DecidableEq

/-- The statements; completions and releases with the number of the claim that they are to end.
`renewDownload` stands for `ContinueRelayDownload` too, which writes the same, and `close` for the
end of the workflow. -/
inductive RelayAct
  | claimUpload (multipart : Bool) (plaintextBytes ciphertextBytes : ℕ) (archiveSHA256 : Digest)
    (now : Time) (leaseTTL : Duration)
  | completeUpload (claim : ℕ) (ciphertextSHA256 : Digest) (ciphertextBytes : ℕ) (now : Time)
  | releaseUpload (claim : ℕ)
  | claimDownload (now : Time) (leaseTTL : Duration)
  | clampDownload (now : Time) (maxTTL : Duration)
  | renewDownload (now : Time) (leaseTTL : Duration)
  | releaseDownload (claim : ℕ)
  | completeDownload (claim : ℕ)
  | close (now : Time)
  | expire (now : Time)
  | promote

def RelayTransfer.write (r : RelayTransfer) : RelayAct → Option RelayTransfer
  | .claimUpload multipart plaintextBytes ciphertextBytes archiveSHA256 now leaseTTL =>
    if 0 < plaintextBytes ∧ 0 < ciphertextBytes ∧ 0 < leaseTTL ∧ r.current ∧ now < r.expiresAt ∧
        ciphertextBytes ≤ r.maxCiphertextBytes ∧
        (r.state = .prepared ∨
          r.state = .uploading ∧ (multipart ∨ r.uploadLeaseUntil.any (· ≤ now))) ∧
        r.plaintextBytes.all (· = plaintextBytes) ∧ r.archiveSHA256.all (· = archiveSHA256) then
      some { r with
        state := .uploading, plaintextBytes := some plaintextBytes
        archiveSHA256 := some archiveSHA256, uploadLeaseUntil := some (now + leaseTTL) }
    else none
  | .completeUpload _ ciphertextSHA256 ciphertextBytes now =>
    if 0 < ciphertextBytes ∧ r.state = .uploading ∧ r.current ∧ now < r.expiresAt ∧
        r.uploadLeaseUntil.any (now < ·) ∧ r.ciphertextBytes = none then
      some { r with
        state := .stored, ciphertextBytes := some ciphertextBytes
        ciphertextSHA256 := some ciphertextSHA256, uploadLeaseUntil := none }
    else none
  | .releaseUpload _ =>
    if r.state = .uploading ∧ r.current then
      some { r with
        state := .prepared, plaintextBytes := none, archiveSHA256 := none
        uploadLeaseUntil := none }
    else none
  | .claimDownload now leaseTTL =>
    if 0 < leaseTTL ∧ r.current ∧ now < r.expiresAt ∧
        (r.state = .stored ∨ r.state = .downloading ∧ r.downloadLeaseUntil.any (· ≤ now)) then
      some { r with state := .downloading, downloadLeaseUntil := some (now + leaseTTL) }
    else none
  | .clampDownload now maxTTL =>
    if 0 < maxTTL ∧ r.state = .downloading ∧ r.current ∧
        r.downloadLeaseUntil.any (now + maxTTL < ·) then
      some { r with downloadLeaseUntil := some (now + maxTTL) }
    else none
  | .renewDownload now leaseTTL =>
    if 0 < leaseTTL ∧ r.state = .downloading ∧ r.current ∧ now < r.expiresAt ∧
        r.downloadLeaseUntil.any (now < ·) then
      some { r with downloadLeaseUntil := some (now + leaseTTL) }
    else none
  | .releaseDownload _ =>
    if r.state = .downloading ∧ r.current then
      some { r with state := .stored, downloadLeaseUntil := none }
    else none
  | .completeDownload _ =>
    if r.state = .downloading ∧ r.current then
      some { r with state := .consumed, downloadLeaseUntil := none }
    else none
  | .close now =>
    if r.state.live then
      some { r with
        expiresAt := min r.expiresAt now, uploadLeaseUntil := none, downloadLeaseUntil := none }
    else none
  | .expire now =>
    if r.expiresAt ≤ now ∧ r.state.live then
      some { r with state := .expired, uploadLeaseUntil := none, downloadLeaseUntil := none }
    else none
  | .promote => some { r with current := false }

def RelayAct.recorded : RelayAct → List (ℕ × Digest)
  | .completeUpload _ ciphertextSHA256 ciphertextBytes _ => [(ciphertextBytes, ciphertextSHA256)]
  | _ => []

abbrev RelayClaim := RelayState × ℕ

def RelayAct.ends : RelayAct → Option RelayClaim
  | .completeUpload claim .. | .releaseUpload claim => some (.uploading, claim)
  | .releaseDownload claim | .completeDownload claim => some (.downloading, claim)
  | _ => none

/-- The row, the number of the next claim, the claims that are held, those that were lost to a later
one, and what was recorded of the upload. -/
structure RelayClaims where
  row : RelayTransfer
  next : ℕ
  (held lost : List RelayClaim)
  uploads : List (ℕ × Digest)

/-- The claims after a statement that finds the row.  A claim whose lease is over is lost to the
next one; an upload in parts shares a live one. -/
def RelayClaims.claims (s : RelayClaims) : RelayAct → RelayClaims
  | .claimUpload _ _ _ _ now _ =>
    if s.row.uploadLeaseUntil.any (now < ·) then
      { s with next := s.next + 1, held := (.uploading, s.next) :: s.held }
    else { s with next := s.next + 1, held := [(.uploading, s.next)], lost := s.held ++ s.lost }
  | .claimDownload .. =>
    { s with next := s.next + 1, held := [(.downloading, s.next)], lost := s.held ++ s.lost }
  | .clampDownload .. | .renewDownload .. | .close _ | .promote => s
  | _ => { s with held := [] }

def relayStep (s : RelayClaims) (act : RelayAct) : Option RelayClaims :=
  match s.row.write act with
  | none => some s
  | some row => some { s.claims act with row, uploads := act.recorded ++ s.uploads }

variable {r r' : RelayTransfer} {start s s' t : RelayClaims} {act : RelayAct}
  {acts acts' : List RelayAct}

lemma RelayTransfer.ciphertext_write (h : r.write act = some r') :
    act.recorded = [] ∧ r'.ciphertextBytes = r.ciphertextBytes ∧
        r'.ciphertextSHA256 = r.ciphertextSHA256 ∨
      r.ciphertextBytes = none ∧ ∃ bytes digest, act.recorded = [(bytes, digest)] ∧
        r'.ciphertextBytes = some bytes ∧ r'.ciphertextSHA256 = some digest := by
  cases act with
  | completeUpload claim digest bytes now =>
    obtain ⟨⟨-, -, -, -, -, hnone⟩, rfl⟩ := of_guarded h
    exact .inr ⟨hnone, bytes, digest, rfl, rfl, rfl⟩
  | promote => exact .inl (some.inj h ▸ ⟨rfl, rfl, rfl⟩)
  | _ =>
    obtain ⟨-, rfl⟩ := of_guarded h
    exact .inl ⟨rfl, rfl, rfl⟩

def RelayClaims.Recorded (s : RelayClaims) : Prop :=
  s.uploads = [] ∧ s.row.ciphertextBytes = none ∨ ∃ bytes digest, s.uploads = [(bytes, digest)] ∧
    s.row.ciphertextBytes = some bytes ∧ s.row.ciphertextSHA256 = some digest

lemma RelayClaims.Recorded.step (h : s.Recorded) (hstep : relayStep s act = some s') :
    s'.Recorded ∧ (s.uploads ≠ [] → s'.uploads = s.uploads) := by
  simp only [relayStep] at hstep
  split at hstep
  · exact some.inj hstep ▸ ⟨h, fun _ => rfl⟩
  next row hwrite =>
    cases hstep
    rcases RelayTransfer.ciphertext_write hwrite with ⟨hnothing, hbytes, hdigest⟩ |
      ⟨hnone, bytes, digest, hrecorded, hbytes, hdigest⟩
    · simpa only [RelayClaims.Recorded, hnothing, List.nil_append, hbytes, hdigest, implies_true,
        and_true] using h
    · obtain ⟨huploads, -⟩ | ⟨_, _, -, hsome, -⟩ := h
      · refine ⟨.inr ⟨bytes, digest, ?_, hbytes, hdigest⟩, fun hne => absurd huploads hne⟩
        rw [hrecorded, huploads, List.singleton_append]
      · simp [hnone] at hsome

def RelayState.claimed (state : RelayState) : Bool := state = .uploading || state = .downloading

/-- What the row has to do with the claims: they are held in its state, there is one whenever the
state says so, and nothing is recorded before the upload is completed. -/
structure RelayClaims.Linked (s : RelayClaims) : Prop where
  held_state : ∀ claim ∈ s.held, claim.1 = s.row.state
  held_claimed : s.held = [] ↔ s.row.state.claimed = false
  unrecorded : s.row.state = .prepared ∨ s.row.state = .uploading → s.row.ciphertextBytes = none

def RelayClaims.Created (s : RelayClaims) : Prop :=
  s.row.state = .prepared ∧ s.row.ciphertextBytes = none ∧ s.held = [] ∧ s.uploads = []

lemma RelayClaims.Created.linked (h : s.Created) : s.Linked where
  held_state claim hclaim := by simp [h.2.2.1] at hclaim
  held_claimed := by simp [h.1, h.2.2.1, RelayState.claimed]
  unrecorded _ := h.2.1

lemma RelayClaims.linked_of_unclaimed (hheld : s.held = []) (hstate : s.row.state.claimed = false)
    (hnone : s.row.state = .prepared → s.row.ciphertextBytes = none) : s.Linked where
  held_state claim hclaim := by simp [hheld] at hclaim
  held_claimed := by simp [hheld, hstate]
  unrecorded h := h.elim hnone fun huploading => by simp [huploading, RelayState.claimed] at hstate

lemma RelayClaims.Linked.of_same (h : s.Linked) (hheld : s'.held = s.held)
    (hstate : s'.row.state = s.row.state)
    (hbytes : s'.row.ciphertextBytes = s.row.ciphertextBytes) : s'.Linked :=
  ⟨hheld ▸ hstate ▸ h.held_state, hheld ▸ hstate ▸ h.held_claimed,
    hbytes ▸ hstate ▸ h.unrecorded⟩

lemma RelayClaims.held_claimUpload (multipart plaintextBytes ciphertextBytes archiveSHA256 now
    leaseTTL) :
    ∃ kept ⊆ s.held, (s.claims (.claimUpload multipart plaintextBytes ciphertextBytes archiveSHA256
      now leaseTTL)).held = (.uploading, s.next) :: kept := by
  dsimp only [RelayClaims.claims]
  split_ifs
  · exact ⟨s.held, List.Subset.refl _, rfl⟩
  · exact ⟨[], List.nil_subset _, rfl⟩

lemma RelayClaims.Linked.step (h : s.Linked) (hstep : relayStep s act = some s') : s'.Linked := by
  simp only [relayStep] at hstep
  split at hstep
  · exact some.inj hstep ▸ h
  next row hwrite =>
    cases hstep
    cases act with
    | claimUpload multipart plaintextBytes ciphertextBytes archiveSHA256 now leaseTTL =>
      obtain ⟨⟨-, -, -, -, -, -, hstate, -, -⟩, rfl⟩ := of_guarded hwrite
      have hnone := h.unrecorded (hstate.imp_right And.left)
      have hheld : ∀ claim ∈ s.held, claim.1 = .uploading := fun claim hclaim => by
        rcases hstate with hprepared | ⟨huploading, -⟩
        · simp [h.held_claimed.mpr (by rw [hprepared]; rfl)] at hclaim
        · exact (h.held_state claim hclaim).trans huploading
      obtain ⟨kept, hkept, hclaims⟩ := s.held_claimUpload multipart plaintextBytes ciphertextBytes
        archiveSHA256 now leaseTTL
      refine ⟨?_, by simp [hclaims, RelayState.claimed], fun _ => hnone⟩
      rw [hclaims]
      exact List.forall_mem_cons.mpr ⟨rfl, fun claim hclaim => hheld claim (hkept hclaim)⟩
    | claimDownload now leaseTTL =>
      obtain ⟨-, rfl⟩ := of_guarded hwrite
      exact ⟨by simp [RelayClaims.claims], by simp [RelayClaims.claims, RelayState.claimed], nofun⟩
    | completeUpload | releaseDownload | completeDownload | expire =>
      obtain ⟨-, rfl⟩ := of_guarded hwrite
      exact RelayClaims.linked_of_unclaimed rfl rfl nofun
    | releaseUpload claim =>
      obtain ⟨⟨hstate, -⟩, rfl⟩ := of_guarded hwrite
      exact RelayClaims.linked_of_unclaimed rfl rfl fun _ => h.unrecorded (.inr hstate)
    | clampDownload | renewDownload =>
      obtain ⟨⟨-, hstate, -⟩, rfl⟩ := of_guarded hwrite
      exact h.of_same rfl rfl rfl
    | close => 
      obtain ⟨-, rfl⟩ := of_guarded hwrite
      exact h.of_same rfl rfl rfl
    | promote => exact some.inj hwrite ▸ h.of_same rfl rfl rfl

def RelayAct.admitted (r : RelayTransfer) : RelayAct → Prop
  | .completeUpload _ _ ciphertextBytes now => r.current ∧ 0 < ciphertextBytes ∧
    now < r.expiresAt ∧ r.uploadLeaseUntil.any (now < ·)
  | _ => r.current

lemma RelayTransfer.state_of_ends {claim : RelayClaim} (hends : act.ends = some claim)
    (h : r.write act = some r') : r.state = claim.1 ∧ r'.state ≠ claim.1 := by
  cases act with
  | completeUpload =>
    cases hends
    obtain ⟨⟨-, hstate, -⟩, rfl⟩ := of_guarded h
    exact ⟨hstate, nofun⟩
  | releaseUpload | releaseDownload | completeDownload =>
    cases hends
    obtain ⟨⟨hstate, -⟩, rfl⟩ := of_guarded h
    exact ⟨hstate, nofun⟩
  | _ => cases hends

lemma RelayClaims.Linked.ends (h : s.Linked) {claim : RelayClaim} (hends : act.ends = some claim) :
    relayStep s act = some s ↔ (∀ other ∈ s.held, other.1 ≠ claim.1) ∨ ¬ act.admitted s.row := by
  have hside : claim.1.claimed := by cases act <;> cases hends <;> rfl
  have hheld : (∀ other ∈ s.held, other.1 ≠ claim.1) ↔ s.row.state ≠ claim.1 := by
    refine ⟨fun hother hstate => ?_, fun hstate other hmem => h.held_state other hmem ▸ hstate⟩
    cases hlist : s.held with
    | nil =>
      have := h.held_claimed.mp hlist
      rw [hstate, hside] at this
      cases this
    | cons other held =>
      have hmem : other ∈ s.held := hlist ▸ List.mem_cons_self
      exact hother other hmem ((h.held_state other hmem).trans hstate)
  have hwritten : relayStep s act = some s ↔ s.row.write act = none := by
    refine ⟨fun hstep => ?_, fun hnone => by rw [relayStep, hnone]⟩
    by_contra hsome
    obtain ⟨row, hrow⟩ := Option.ne_none_iff_exists'.mp hsome
    rw [relayStep, hrow] at hstep
    obtain ⟨hbefore, hafter⟩ := RelayTransfer.state_of_ends hends hrow
    exact hafter (congrArg (·.row.state) (some.inj hstep) ▸ hbefore)
  rw [hheld, hwritten]
  cases act with
  | completeUpload number digest bytes now =>
    cases hends
    simp only [RelayTransfer.write, ite_eq_right_iff, reduceCtorEq, imp_false, RelayAct.admitted]
    have := h.unrecorded
    tauto
  | releaseUpload | releaseDownload | completeDownload =>
    cases hends
    simp only [RelayTransfer.write, ite_eq_right_iff, reduceCtorEq, imp_false, RelayAct.admitted]
    tauto
  | _ => cases hends

/-- **Claims of a relay transfer exclude each other**, where a lost claim is not ended while a later
one of its side is held: in every state that a transfer reaches, what is done with a lost claim
leaves the row alone exactly if no claim of that side is held, or if the row is not of the active
generation or the completion is too late.  In every run the upload is completed at most once, and
what that records stays. -/
theorem relay_claims_exclusive (hstart : start.Created)
    (hrun : run relayStep start acts = some s) (hrun' : run relayStep s acts' = some s') :
    (∀ act claim, act.ends = some claim → claim ∈ s'.lost →
      (relayStep s' act = some s' ↔
        (∀ other ∈ s'.held, other.1 ≠ claim.1) ∨ ¬ act.admitted s'.row)) ∧
    s'.uploads.length ≤ 1 ∧
    (s.uploads ≠ [] → s'.row.ciphertextBytes = s.row.ciphertextBytes ∧
      s'.row.ciphertextSHA256 = s.row.ciphertextSHA256) := by
  have hlinked : s'.Linked :=
    run_invariant (fun _ _ _ h => h.step) hstart.linked (run_append_eq_some.mpr ⟨s, hrun, hrun'⟩)
  have hs : s.Recorded := run_invariant (fun _ _ _ h hstep => (h.step hstep).1)
    (.inl ⟨hstart.2.2.2, hstart.2.1⟩) hrun
  obtain ⟨hs', hsame⟩ : s'.Recorded ∧ (s.uploads ≠ [] → s'.uploads = s.uploads) := by
    refine run_invariant (P := fun t => t.Recorded ∧ (s.uploads ≠ [] → t.uploads = s.uploads))
      (fun t act t' ht hstep => ?_) ⟨hs, fun _ => rfl⟩ hrun'
    obtain ⟨ht', hkept⟩ := ht.1.step hstep
    exact ⟨ht', fun hne => (hkept (ht.2 hne ▸ hne)).trans (ht.2 hne)⟩
  refine ⟨fun act claim hends _ => hlinked.ends hends, ?_, fun hne => ?_⟩
  · obtain ⟨hnone, -⟩ | ⟨_, _, hone, -⟩ := hs'
    · simp [hnone]
    · simp [hone]
  · obtain ⟨hnone, -⟩ | ⟨bytes, digest, hone, hbytes, hdigest⟩ := hs
    · exact absurd hnone hne
    obtain ⟨hnone, -⟩ | ⟨bytes', digest', hone', hbytes', hdigest'⟩ := hs'
    · exact absurd (hsame hne ▸ hnone) hne
    · rw [hsame hne, hone] at hone'
      cases hone'
      rw [hbytes, hbytes', hdigest, hdigest']
      exact ⟨rfl, rfl⟩

def reclaimedDownload : List RelayAct :=
  [.claimUpload false 10 20 7 0 60, .completeUpload 0 8 20 5, .claimDownload 10 2,
    .claimDownload 20 2]

def preparedTransfer : RelayClaims where
  row := ⟨.prepared, true, 100, 90, none, none, none, none, none, none⟩
  next := 0
  held := []
  lost := []
  uploads := []

theorem relay_claims_exclusive_completed :
    ∃ s s', run relayStep preparedTransfer reclaimedDownload = some s ∧
      run relayStep s [.completeDownload 2] = some s' ∧ (.downloading, 1) ∈ s'.lost ∧
      relayStep s' (.releaseDownload 1) = some s' := by
  obtain ⟨s, hrun, s', hrun', hlost, hheld⟩ :
      ∃ s ∈ run relayStep preparedTransfer reclaimedDownload,
        ∃ s' ∈ run relayStep s [.completeDownload 2], (.downloading, 1) ∈ s'.lost ∧
          s'.held = [] := by decide +kernel
  exact ⟨s, s', hrun, hrun', hlost, ((relay_claims_exclusive ⟨rfl, rfl, rfl, rfl⟩ hrun hrun').1
    _ _ rfl hlost).mpr (.inl (by simp [hheld]))⟩

/-- **A lost claim ends another one.**  The first download is released after the second request has
claimed the transfer, which is then not downloading any more. -/
theorem lost_claim_ends_another :
    ∃ s s', run relayStep preparedTransfer reclaimedDownload = some s ∧
      relayStep s (.releaseDownload 1) = some s' ∧ (.downloading, 1) ∈ s.lost ∧
      s.held = [(.downloading, 2)] ∧
      s.row.state = .downloading ∧ s'.row.state = .stored ∧
      s'.row.write (.renewDownload 21 2) = none :=
  exists_states (by decide +kernel)

end StControl.Store
