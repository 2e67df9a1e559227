import StControl.Agent.OwnershipDurability

/-!
# Retrying a user-confirmed takeover

A takeover that fails is meant to be retried under the same operation: the journal on disk has the
operation with its claim, so that the retry goes straight to the broadcast, or nothing has happened
yet and the retry starts over with the same parent.

`performUserConfirmedTakeover` stores the child claim in one save and the journal entry in another.
What falls between the two, a crash, a journal that is full or a save that fails, leaves a child
claim in the place of its parent and no entry in the journal; a retry then finds that its
precondition has changed (`takeover_lost`).  `takeover_stays_retryable` says that nothing else does:
whatever else fails and wherever the agent crashes, the request stays retryable as long as no other
claim takes the place of its parent.
-/

namespace StControl.Agent

open Run Option DurableAgent NodeState

variable {operationID : String} {operations : List String} {request : OwnershipTakeoverRequest}
  {before after : TakeoverPhase}

/-! ## What a retry needs -/

abbrev LocalParent (st : NodeState) (r : OwnershipTakeoverRequest) : Prop :=
  ∃ parent, st.activityOwnership r.handle = some parent ∧ parent.claimID = r.parentClaimID

abbrev InJournal (st : NodeState) (r : OwnershipTakeoverRequest) : Prop :=
  ∃ op, st.operation? r.operationID = some op ∧ op.parentClaimID = r.parentClaimID ∧
    op.claim.handle = r.handle ∧ op.claim.parentClaimID = r.parentClaimID ∧
    op.claim.operationID = r.operationID

def appliesChildOf (r : OwnershipTakeoverRequest) (s : DurableAgent) : DurableAct → Bool
  | .applyChild .. => s.takeover.any (·.1 = r)
  | _ => false

/-- The condition.  No other claim takes the place of the parent; when the child does, its save
succeeds and the journal has room; the save of the journal entry succeeds; the agent does not crash
between the two; and the operation is not used for another request and not dropped from the journal.
-/
def keepsTakeover (env : Env) (config : OwnershipConfig) (r : OwnershipTakeoverRequest)
    (s : DurableAgent) (act : DurableAct) : Bool :=
  ((appliedClaim env config s act).all fun (claim, requireParent, saved) =>
    !s.memory.storesClaim env claim requireParent ||
      if appliesChildOf r s act then
        saved && s.memory.ownershipTakeovers.length < maxOwnershipTakeovers
      else claim.handle != r.handle) &&
  match act with
  | .takeover request => request.operationID != r.operationID || request = r
  | .journal _ saved => saved || !s.takeover.any (·.1 = r)
  | .acknowledgeTakeovers operations _ => r.operationID ∉ operations
  | .restart => !s.takeover.any fun (request, phase) => request = r &&
      match phase with
      | .applied _ => true
      | _ => false
  | _ => true

def TakeoverPhase.beforeJournal : TakeoverPhase → Bool
  | .querying | .confirmed | .parentRead _ | .applied _ => true
  | .journaled _ | .broadcasting _ | .acknowledged _ | .succeeded _ => false

structure TakeoverKept (r : OwnershipTakeoverRequest) (s : DurableAgent) : Prop where
  owned : s.disk.activityOwnership r.handle = s.memory.activityOwnership r.handle
  same : ∀ request phase, s.takeover = some (request, phase) →
    request.operationID = r.operationID → request = r
  parent : ∀ p, s.takeover = some (r, .parentRead p) → p.claimID = r.parentClaimID
  child : ∀ c, s.takeover = some (r, .applied c) → c.handle = r.handle ∧
    c.parentClaimID = r.parentClaimID ∧ c.operationID = r.operationID
  kept : LocalParent s.memory r ∨ (InJournal s.memory r ∧ InJournal s.disk r) ∨
    (∃ c, s.takeover = some (r, .applied c)) ∧
      s.memory.ownershipTakeovers.length < maxOwnershipTakeovers

variable {env : Env} {config : OwnershipConfig} {s s' : DurableAgent} {act : DurableAct}
  {r : OwnershipTakeoverRequest} {st st' : NodeState}

lemma LocalParent.congr (h : LocalParent st r)
    (howned : st'.activityOwnership r.handle = st.activityOwnership r.handle) :
    LocalParent st' r := by
  unfold LocalParent
  rwa [howned]

lemma InJournal.congr (h : InJournal st r)
    (hjournal : st'.ownershipTakeovers = st.ownershipTakeovers) :
    InJournal st' r := by
  unfold InJournal operation?
  rwa [hjournal]

variable {op : OwnershipTakeoverOperation} {claim parent : ActivityOwnershipClaim} {saved : Bool}
  {answers : OwnershipAnswers} {now : ℤ}

lemma NodeState.operation?_putOperation_of_ne (hne : op.operationID ≠ operationID) :
    (st.putOperation op).operation? operationID = st.operation? operationID := by
  unfold operation? putOperation
  rw [List.find?_cons_of_neg (by simpa using hne), List.find?_filter]
  congr 1
  funext a
  by_cases ha : a.operationID = operationID
  · simp [ha, Ne.symm hne]
  · simp [ha]

lemma InJournal.putOther (hne : op.operationID ≠ r.operationID) (h : InJournal st r) :
    InJournal (st.putOperation op) r := by
  obtain ⟨entry, hentry, hfits⟩ := h
  exact ⟨entry, (operation?_putOperation_of_ne hne).trans hentry, hfits⟩

lemma InJournal.put {current : OwnershipTakeoverOperation}
    (hcurrent : st.operation? op.operationID = some current)
    (hclaim : op.claim = current.claim) (hparent : op.parentClaimID = current.parentClaimID)
    (h : InJournal st r) : InJournal (st.putOperation op) r := by
  by_cases hid : op.operationID = r.operationID
  · obtain ⟨entry, hentry, hfits⟩ := h
    rw [hid, hentry] at hcurrent
    cases hcurrent
    refine ⟨op, ?_, by rw [hparent, hclaim]; exact hfits⟩
    rw [← hid]
    exact operation?_putOperation st op
  · exact h.putOther hid

lemma NodeState.operation?_filter (hnot : operationID ∉ operations) :
    operation? { st with ownershipTakeovers := st.ownershipTakeovers.filter fun op =>
      !(op.operationID ∈ operations && op.succeeded && op.audited) } operationID =
      st.operation? operationID := by
  unfold operation?
  rw [List.find?_filter]
  congr 1
  funext a
  by_cases ha : a.operationID = operationID
  · simp [ha, hnot]
  · simp [ha]

/-! ## One step -/

lemma serving_unique {takeover : Option (OwnershipTakeoverRequest × TakeoverPhase)}
    (h : takeover = some (request, before)) (h' : takeover = some (r, after)) :
    request = r ∧ before = after :=
  Prod.mk.inj (mem_unique h h')

/-- The ownership of the handle and the journal in memory are as they were; the disk is as it was or
has been written. -/
structure Untouched (r : OwnershipTakeoverRequest) (s s' : DurableAgent) : Prop where
  owned : s'.memory.activityOwnership r.handle = s.memory.activityOwnership r.handle
  journal : s'.memory.ownershipTakeovers = s.memory.ownershipTakeovers
  disk : s'.disk = s.disk ∨ s'.disk = s'.memory

lemma of_disk {P : NodeState → Prop} (hdisk : s'.disk = s.disk ∨ s'.disk = s'.memory)
    (hbefore : P s.disk) (hafter : P s'.memory) : P s'.disk := by
  rcases hdisk with heq | heq <;> rwa [heq]

namespace TakeoverKept

lemma of_idle (hidle : s.takeover = none)
    (howned : s.disk.activityOwnership r.handle = s.memory.activityOwnership r.handle)
    (hkept : LocalParent s.memory r ∨ (InJournal s.memory r ∧ InJournal s.disk r)) :
    TakeoverKept r s where
  owned := howned
  same := fun _ _ ht => nomatch hidle.symm.trans ht
  parent := fun _ ht => nomatch hidle.symm.trans ht
  child := fun _ ht => nomatch hidle.symm.trans ht
  kept := hkept.imp_right .inl

section

variable (h : TakeoverKept r s)
include h

section

variable (huntouched : Untouched r s s')
include huntouched

lemma of_same (hsame : ∀ request phase, s'.takeover = some (request, phase) → request.operationID =
      r.operationID → request = r)
    (hparent : ∀ p, s'.takeover = some (r, .parentRead p) → p.claimID = r.parentClaimID)
    (hchild : ∀ c, s'.takeover = some (r, .applied c) → s.takeover = some (r, .applied c))
    (happlied : ∀ c, s.takeover = some (r, .applied c) → s'.takeover = some (r, .applied c)) :
    TakeoverKept r s' := by
  obtain ⟨howned, hjournal, hdisk⟩ := huntouched
  constructor
  case owned =>
    exact of_disk (P := fun st => st.activityOwnership r.handle = _) hdisk
      (h.owned.trans howned.symm) rfl
  case same => exact hsame
  case parent => exact hparent
  case child => exact fun c ht => h.child c (hchild c ht)
  case kept =>
    rcases h.kept with hlocal | ⟨hmemory, hsaved⟩ | ⟨⟨c, ht⟩, hroom⟩
    · exact .inl (hlocal.congr howned)
    · have hafter := hmemory.congr hjournal
      exact .inr (.inl ⟨hafter, of_disk (P := (InJournal · r)) hdisk hsaved hafter⟩)
    · exact .inr (.inr ⟨⟨c, happlied c ht⟩, by rw [hjournal]; exact hroom⟩)

lemma stay (htakeover : s'.takeover = s.takeover) : TakeoverKept r s' := by
  refine h.of_same huntouched ?_ ?_ (fun c ht => htakeover ▸ ht) fun c ht => htakeover.trans ht
  · rw [htakeover]
    exact h.same
  · rw [htakeover]
    exact h.parent

lemma finish (htakeover : s'.takeover = none) (hnot : ∀ c, s.takeover ≠ some (r, .applied c)) :
    TakeoverKept r s' := by
  refine h.of_same huntouched ?_ ?_ ?_ fun c ht => absurd ht (hnot c)
  all_goals
    rw [htakeover]
    exact fun _ => nofun

end

lemma advance (hbefore : s.takeover = some (request, before))
    (hafter : s'.takeover = some (request, after)) (huntouched : Untouched r s s')
    (hparent : request = r → ∀ p, after = .parentRead p → p.claimID = r.parentClaimID)
    (hnot : ∀ c, before ≠ .applied c ∧ after ≠ .applied c) : TakeoverKept r s' := by
  refine h.of_same huntouched (fun q p ht hid => ?_) (fun p ht => ?_) (fun c ht => ?_)
    fun c ht => ?_
  · obtain ⟨rfl, -⟩ := serving_unique hafter ht
    exact h.same _ _ hbefore hid
  · obtain ⟨hq, hp⟩ := serving_unique hafter ht
    exact hparent hq p hp
  · exact absurd (serving_unique hafter ht).2 (hnot c).2
  · exact absurd (serving_unique hbefore ht).2 (hnot c).1

lemma write (hput : InJournal s.memory r → InJournal (s.memory.putOperation op) r)
    (hmemory : s'.memory = s.memory.putOperation op)
    (hdisk : s'.disk = s.disk ∨ s'.disk = s'.memory) (hnot : ∀ c, s.takeover ≠ some (r, .applied c))
    (hafter : ∀ request phase, s'.takeover = some (request, phase) →
      request.operationID = r.operationID → request = r ∧ phase.beforeJournal = false) :
    TakeoverKept r s' where
  owned := of_disk (P := fun st => st.activityOwnership r.handle = _) hdisk
    (by rw [hmemory]; exact h.owned) rfl
  same := fun request phase ht hid => (hafter request phase ht hid).1
  parent := fun p ht => nomatch (hafter r _ ht rfl).2
  child := fun c ht => nomatch (hafter r _ ht rfl).2
  kept := by
    rcases h.kept with hlocal | ⟨hjournal, hsaved⟩ | ⟨⟨c, ht⟩, -⟩
    · refine .inl (hlocal.congr ?_)
      rw [hmemory]
      rfl
    · have hafter : InJournal s'.memory r := hmemory ▸ hput hjournal
      exact .inr (.inl ⟨hafter, of_disk (P := (InJournal · r)) hdisk hsaved hafter⟩)
    · exact absurd ht (hnot c)

end

end TakeoverKept

lemma owned_of_keepsTakeover {requireParent : Bool} (hcond : keepsTakeover env config r s act)
    (happlied : appliedClaim env config s act = some (claim, requireParent, saved))
    (hother : appliesChildOf r s act = false) :
    (s.apply env claim requireParent saved).agent.memory.activityOwnership r.handle =
      s.memory.activityOwnership r.handle := by
  rw [apply_agent]
  by_cases hstores : s.memory.storesClaim env claim requireParent
  · simp only [keepsTakeover, happlied, all_some, hstores, hother, Bool.and_eq_true,
      Bool.not_true, Bool.false_or, Bool.false_eq_true, if_false, bne_iff_ne] at hcond
    rw [if_pos hstores]
    cases saved <;> exact if_neg (Ne.symm hcond.1)
  · rw [if_neg hstores]

lemma AppliedBy.owned {t : DurableAgent} (h : AppliedBy env config s act t)
    (hcond : keepsTakeover env config r s act)
    (hother : ∀ now saved, act = .applyChild now saved → t = s) :
    t.memory.activityOwnership r.handle = s.memory.activityOwnership r.handle := by
  cases h with
  | applied call =>
    cases act with
    | applyChild now saved => rw [hother now saved rfl]
    | _ => exact owned_of_keepsTakeover hcond call rfl
  | nothing => rfl

lemma not_applied {phase : TakeoverPhase} (hserving : s.takeover = some (request, phase))
    (hphase : ∀ c, phase ≠ .applied c) (c : ActivityOwnershipClaim) :
    s.takeover ≠ some (r, .applied c) :=
  fun ht => hphase c (serving_unique hserving ht).2

section

variable (h : TakeoverKept r s)
include h

lemma TakeoverKept.acknowledge (hnot : r.operationID ∉ operations) :
    TakeoverKept r (s.acknowledgeTakeovers operations saved) := by
  have hin : InJournal s.memory r → InJournal { s.memory with
      ownershipTakeovers := s.memory.ownershipTakeovers.filter fun op =>
        !(op.operationID ∈ operations && op.succeeded && op.audited) } r := by
    rintro ⟨op, hop, hfits⟩
    exact ⟨op, (operation?_filter hnot).trans hop, hfits⟩
  have hroom : ∀ {n : ℕ}, s.memory.ownershipTakeovers.length < n →
      (s.memory.ownershipTakeovers.filter fun op =>
        !(op.operationID ∈ operations && op.succeeded && op.audited)).length < n := fun hlt =>
    (List.length_filter_le _ _).trans_lt hlt
  have hmemory : TakeoverKept r { s with memory := { s.memory with
      ownershipTakeovers := s.memory.ownershipTakeovers.filter fun op =>
        !(op.operationID ∈ operations && op.succeeded && op.audited) } } :=
    { h with
      kept := h.kept.imp id (Or.imp (And.imp_left hin) (And.imp_right hroom)) }
  cases saved with
  | false => exact hmemory
  | true => exact hmemory.stay ⟨rfl, rfl, .inr rfl⟩ rfl

lemma TakeoverKept.toApplied {p : ActivityOwnershipClaim}
    (htakeover : s.takeover = some (r, .parentRead p))
    (hclaim : childClaim env config r p now = some claim)
    (hafter : s'.takeover = some (r, .applied claim))
    (hjournal : s'.memory.ownershipTakeovers = s.memory.ownershipTakeovers)
    (howned : s'.disk.activityOwnership r.handle = s'.memory.activityOwnership r.handle)
    (hkept : s'.memory.activityOwnership r.handle = s.memory.activityOwnership r.handle ∧
        s'.disk = s.disk ∨ s.memory.ownershipTakeovers.length < maxOwnershipTakeovers) :
    TakeoverKept r s' := by
  obtain ⟨-, hhandle, -, -, -, -, -, hparent, hoperation⟩ :=
    makeActivityOwnershipClaim_eq_some hclaim
  exact
    { owned := howned, same := fun q p' ht _ => (serving_unique hafter ht).1.symm
      parent := fun p' ht => nomatch (serving_unique hafter ht).2
      child := fun c ht => by
        cases (serving_unique hafter ht).2
        exact ⟨hhandle, hparent.trans (h.parent p htakeover), hoperation⟩
      kept := by
        rcases hkept with ⟨hsame, hdisk⟩ | hroom
        · rcases h.kept with hlocal | ⟨hmemory, hsaved⟩ | ⟨⟨c, ht⟩, -⟩
          · exact .inl (hlocal.congr hsame)
          · exact .inr (.inl ⟨hmemory.congr hjournal, by rw [hdisk]; exact hsaved⟩)
          · simp [htakeover] at ht
        · exact .inr (.inr ⟨⟨claim, hafter⟩, by rw [hjournal]; exact hroom⟩) }

lemma TakeoverKept.toAppliedOther (hbefore : s.takeover = some (request, before))
    (hne : request ≠ r) (hafter : s'.takeover = some (request, after))
    (huntouched : Untouched r s s') : TakeoverKept r s' := by
  have hother : ∀ {p : TakeoverPhase}, s'.takeover ≠ some (r, p) :=
    fun ht => hne (serving_unique hafter ht).1
  refine h.of_same huntouched (fun q p ht hid => ?_) (fun p ht => absurd ht hother)
    (fun c ht => absurd ht hother) fun c ht => ?_
  · obtain ⟨rfl, -⟩ := serving_unique hafter ht
    exact h.same _ _ hbefore hid
  · exact absurd (serving_unique hbefore ht).1 hne

lemma TakeoverKept.applyChild {takeover : Option (OwnershipTakeoverRequest × TakeoverPhase)}
    (hcond : keepsTakeover env config r s (.applyChild now saved))
    (serving : s.takeover = some (request, .parentRead parent))
    (made : childClaim env config request parent now = some claim)
    (next : takeover = none ∧
        ((s.apply env claim true saved).error ∨ ¬ (s.apply env claim true saved).accepted) ∨
      takeover = some (request, .applied claim) ∧ (s.apply env claim true saved).accepted) :
    TakeoverKept r { (s.apply env claim true saved).agent with takeover } := by
  have hnot := not_applied (r := r) serving (by simp)
  have happlied : appliedClaim env config s (.applyChild now saved) =
      some (claim, true, saved) := by simp [appliedClaim, serving, made]
  obtain ⟨-, hjournal, hdisk⟩ := apply_journal env s claim true saved
  by_cases hr : request = r
  · subst hr
    by_cases hstores : s.memory.storesClaim env claim true
    · have hown : appliesChildOf request s (.applyChild now saved) := by
        simp [appliesChildOf, serving]
      simp only [keepsTakeover, happlied, all_some, hstores, hown, Bool.not_true, Bool.false_or,
        if_true, Bool.and_true, Bool.and_eq_true,
        decide_eq_true_eq] at hcond
      obtain ⟨rfl, hroom⟩ := hcond
      have hvalid : validateActivityOwnershipClaim env claim :=
        (Bool.and_eq_true _ _ ▸ hstores).1
      rcases next with ⟨-, hfails⟩ | ⟨rfl, -⟩
      · simp [apply, hvalid, applyActivityOwnershipClaim_eq, hstores] at hfails
      · refine h.toApplied serving made rfl hjournal ?_ (.inr hroom)
        rw [apply_agent, if_pos hstores]
        rfl
    · have hagent : (s.apply env claim true saved).agent = s := by
        rw [apply_agent, if_neg hstores]
      rw [hagent]
      rcases next with ⟨rfl, -⟩ | ⟨rfl, -⟩
      · exact h.finish ⟨rfl, rfl, .inl rfl⟩ rfl hnot
      · exact h.toApplied serving made rfl rfl h.owned (.inl ⟨rfl, rfl⟩)
  · have hother : appliesChildOf r s (.applyChild now saved) = false := by
      simp [appliesChildOf, serving, hr]
    have howned := owned_of_keepsTakeover hcond happlied hother
    rcases next with ⟨rfl, -⟩ | ⟨rfl, -⟩
    · exact h.finish ⟨howned, hjournal, hdisk⟩ rfl hnot
    · exact h.toAppliedOther serving hr rfl ⟨howned, hjournal, hdisk⟩

lemma TakeoverKept.journal (hcond : keepsTakeover env config r s (.journal now saved))
    (serving : s.takeover = some (request, .applied claim))
    (entry : op =
      { operationID := request.operationID, parentClaimID := claim.parentClaimID, claim
        succeeded := false, audited := false, updatedAt := now }) :
    TakeoverKept r
      (s.writeEntry op saved (if saved then some (request, .journaled op) else none)) := by
  by_cases hr : request = r
  · subst hr
    obtain ⟨hhandle, hparent, hoperation⟩ := h.child claim serving
    simp only [keepsTakeover, appliedClaim, all_none, Bool.true_and, serving,
      any_some, decide_true, Bool.not_true, Bool.or_false] at hcond
    subst hcond
    have hin : InJournal (s.memory.putOperation op) request :=
      ⟨op, by subst entry; exact operation?_putOperation .., by subst entry; exact
        ⟨hparent, hhandle, hparent, hoperation⟩⟩
    exact
      { owned := rfl, same := fun q p ht _ => (Prod.mk.inj (some.inj ht)).1.symm
        parent := fun p ht => by cases ht
        child := fun c ht => by cases ht
        kept := .inr (.inl ⟨hin, hin⟩) }
  · have hid : request.operationID ≠ r.operationID := fun hid => hr (h.same _ _ serving hid)
    refine h.write (.putOther (show op.operationID ≠ _ by rwa [entry]))
      (by cases saved <;> rfl) ?_
      (fun c ht => hr (serving_unique serving ht).1) fun q p ht hq => ?_
    · cases saved
      · exact .inl rfl
      · exact .inr rfl
    · cases saved <;> cases ht
      exact absurd hq hid

/-- **A request stays retryable** in every step that meets the condition. -/
theorem TakeoverKept.after_step (hcond : keepsTakeover env config r s act)
    (hstep : durableStep env config s act = some s') : TakeoverKept r s' := by
  cases stepsTo_of_durableStep hstep with
  | @goes _ t _ applied goes other =>
    obtain ⟨-, hjournal, hdisk⟩ := applied.journal
    have huntouched : ∀ takeover, Untouched r s { t with takeover } :=
      fun _ => ⟨applied.owned hcond other, hjournal, hdisk⟩
    cases goes with
    | stays => exact h.stay (huntouched _) rfl
    | ends serving early => exact h.finish (huntouched _) rfl (not_applied serving early)
    | confirmed serving =>
      exact h.advance serving rfl (huntouched _) (fun _ p => nofun) fun c => ⟨nofun, nofun⟩
    | parentRead serving found =>
      refine h.advance serving rfl (huntouched _) (fun hr p hp => ?_) fun c => ⟨nofun, nofun⟩
      cases hp
      rw [found, hr]
    | onward serving known next =>
      rcases known with rfl | rfl <;> rcases next with rfl | rfl | rfl <;>
        exact h.advance serving rfl (huntouched _) (fun _ p => nofun) fun c => ⟨nofun, nofun⟩
  | @starts request phase idle reads =>
    have hsame : request.operationID = r.operationID → request = r := by
      simp only [keepsTakeover, appliedClaim, all_none, Bool.true_and,
        Bool.or_eq_true, decide_eq_true_eq, bne_iff_ne] at hcond
      exact fun hid => hcond.resolve_left (not_not_intro hid)
    refine h.of_same ⟨rfl, rfl, .inl rfl⟩ (fun q p ht hid => ?_) (fun p ht => ?_) (fun c ht => ?_)
      fun c ht => by cases idle.symm.trans ht
    · obtain ⟨rfl, -⟩ := serving_unique rfl ht
      exact hsame hid
    all_goals
      obtain ⟨-, rfl⟩ := serving_unique rfl ht
      rcases reads with ⟨hquerying, -⟩ | ⟨operation, hjournaled, -⟩ <;> contradiction
  | child serving made next => exact h.applyChild hcond serving made next
  | @full _ _ request _ serving full =>
    by_cases hr : request = r
    · refine .of_idle rfl h.owned ?_
      rcases h.kept with hlocal | hjournal | ⟨-, hroom⟩
      · exact .inl hlocal
      · exact .inr hjournal
      · omega
    · exact h.finish ⟨rfl, rfl, .inl rfl⟩ rfl fun c ht => hr (serving_unique serving ht).1
  | journals serving entry => exact h.journal hcond serving entry
  | @rewrites _ request _ operation _ saved _ _ serving late found same next =>
    refine h.write (.put found same.1 same.2) (by cases saved <;> rfl) ?_
      (not_applied serving late) fun q p ht hq => ?_
    · cases saved
      · exact .inl rfl
      · exact .inr rfl
    · rcases next with rfl | rfl <;> cases ht
      exact ⟨h.same _ _ serving hq, rfl⟩
  | acknowledges operations saved =>
    simp only [keepsTakeover, appliedClaim, all_none, Bool.true_and, decide_eq_true_eq] at hcond
    exact h.acknowledge hcond
  | saves => exact h.stay ⟨rfl, rfl, .inr rfl⟩ rfl
  | restarts =>
    have hnot : ∀ c, s.takeover ≠ some (r, .applied c) := by
      intro c ht
      simp [keepsTakeover, appliedClaim, ht] at hcond
    refine .of_idle rfl rfl ?_
    rcases h.kept with hlocal | ⟨-, hsaved⟩ | ⟨⟨c, ht⟩, -⟩
    · exact .inl (hlocal.congr h.owned)
    · exact .inr ⟨hsaved, hsaved⟩
    · exact absurd ht (hnot c)

end

/-! ## The retry -/

def ReachesBroadcast (env : Env) (config : OwnershipConfig) (s : DurableAgent)
    (r : OwnershipTakeoverRequest) : Prop :=
  ∃ acts s' op, run (durableStep env config) s (.takeover r :: acts) = some s' ∧
    (s'.takeover = some (r, .broadcasting op) ∨ s'.takeover = some (r, .succeeded op))

/-- The peers answer as the takeover needs it: the local claim has a quorum and its owner is away,
and its child can be made and stored. -/
structure PeersConfirm (env : Env) (config : OwnershipConfig) (s : DurableAgent)
    (r : OwnershipTakeoverRequest) (answers : OwnershipAnswers)
    (parent claim : ActivityOwnershipClaim)
    (now : ℤ) : Prop where
  held : s.memory.activityOwnership r.handle = some parent
  handle : parent.handle = r.handle
  identity : parent.claimID = r.parentClaimID
  decided : (s.quorumQuery env config answers true).2 = some (parent, .takeoverRequired)
  child : childClaim env config r parent now = some claim
  stores : s.memory.storesClaim env claim true
  unused : s.memory.operation? r.operationID = none

lemma InJournal.reachesBroadcast (h : InJournal s.memory r) (hvalid : r.valid env)
    (hidle : s.takeover = none) : ReachesBroadcast env config s r := by
  obtain ⟨op, hop, hparent, hhandle, -, -⟩ := h
  have hstart : durableStep env config s (.takeover r) = some (s.moveTo r (.journaled op)) := by
    simp only [durableStep, DurableAgent.startTakeover, hvalid, hidle, and_self, if_true,
      hop, hhandle,
      hparent]
  have hrun : ∀ phase, durableStep env config (s.moveTo r (.journaled op)) .broadcast =
      some (s.moveTo r phase) →
      run (durableStep env config) s [.takeover r, .broadcast] = some (s.moveTo r phase) :=
    fun _ hstep => run_cons_eq_some.mpr ⟨_, hstart, run_cons_eq_some.mpr ⟨_, hstep, run_nil _⟩⟩
  cases hsucceeded : op.succeeded with
  | true =>
    refine ⟨[.broadcast], s.moveTo r (.succeeded op), op, hrun _ ?_, .inr rfl⟩
    simp [durableStep, DurableAgent.broadcast, DurableAgent.moveTo, hsucceeded]
  | false =>
    refine ⟨[.broadcast], s.moveTo r (.broadcasting op), op, hrun _ ?_, .inl rfl⟩
    simp [durableStep, DurableAgent.broadcast, DurableAgent.moveTo, hsucceeded]

section

variable (h : PeersConfirm env config s r answers parent claim now)
include h

lemma PeersConfirm.query (phase : TakeoverPhase) :
    (s.moveTo r phase).quorumQuery env config answers true =
      (s.moveTo r phase, some (parent, .takeoverRequired)) := by
  have hdecided := h.decided
  simp only [quorumQuery] at hdecided ⊢
  cases hmaximal : answers.maximal with
  | none =>
    simp [hmaximal] at hdecided
  | some maximal =>
    rw [hmaximal] at hdecided
    obtain ⟨hcounted, hresult⟩ := ite_none_right_eq_some.mp hdecided
    obtain ⟨rfl, hdecision⟩ := Prod.mk.inj (some.inj hresult)
    have hheld : s.memory.storesClaim env maximal false = false := by
      simp [storesClaim, h.handle, h.held]
    have hagent : ((s.moveTo r phase).apply env maximal false true).agent = s.moveTo r phase := by
      exact if_neg (by rw [moveTo, hheld]; exact Bool.false_ne_true)
    have haccepted : ((s.moveTo r phase).apply env maximal false true).accepted :=
      hcounted.1
    dsimp only
    rw [hagent, haccepted, if_pos ⟨rfl, hcounted.2⟩, hdecision]

lemma PeersConfirm.run_child (hvalid : r.valid env) (hidle : s.takeover = none) :
    run (durableStep env config) s
        [.takeover r, .confirm answers true, .readParent, .applyChild now true] =
      some ⟨s.memory.store claim, s.memory.store claim, some (r, .applied claim)⟩ := by
  have hstart : durableStep env config s (.takeover r) = some (s.moveTo r .querying) := by
    simp only [durableStep, startTakeover, hvalid, hidle, and_self, if_true, h.unused]
  have hconfirm : durableStep env config (s.moveTo r .querying) (.confirm answers true) =
      some (s.moveTo r .confirmed) := by
    simp only [durableStep, confirmTakeover, h.query]
    exact if_pos h.identity
  have hread : durableStep env config (s.moveTo r .confirmed) .readParent =
      some (s.moveTo r (.parentRead parent)) := by
    simp only [durableStep, readParent, moveTo, h.held]
    exact if_pos h.identity
  have hagent : ((s.moveTo r (.parentRead parent)).apply env claim true true).agent =
      ⟨s.memory.store claim, s.memory.store claim, some (r, .parentRead parent)⟩ := by
    rw [apply_agent]
    exact if_pos h.stores
  have haccepted : ((s.moveTo r (.parentRead parent)).apply env claim true true).accepted := by
    show (s.memory.applyActivityOwnershipClaim env claim true).2
    rw [NodeState.applyActivityOwnershipClaim_eq, if_pos h.stores]
  have herror : ((s.moveTo r (.parentRead parent)).apply env claim true true).error = false := by
    have hchild := (makeActivityOwnershipClaim_eq_some h.child).1
    simp [apply, hchild]
  have happly : durableStep env config (s.moveTo r (.parentRead parent)) (.applyChild now true) =
      some ⟨s.memory.store claim, s.memory.store claim, some (r, .applied claim)⟩ := by
    simp only [durableStep, applyChild]
    rw [show (s.moveTo r (.parentRead parent)).takeover = some (r, .parentRead parent) from rfl]
    simp only [h.child, hagent, haccepted, herror]
    rfl
  exact run_cons_eq_some.mpr ⟨_, hstart, run_cons_eq_some.mpr ⟨_, hconfirm,
    run_cons_eq_some.mpr ⟨_, hread, run_cons_eq_some.mpr ⟨_, happly, run_nil _⟩⟩⟩⟩

lemma PeersConfirm.reachesBroadcast (hvalid : r.valid env) (hidle : s.takeover = none)
    (hroom : s.memory.ownershipTakeovers.length < maxOwnershipTakeovers) :
    ReachesBroadcast env config s r := by
  let written : OwnershipTakeoverOperation :=
    { operationID := r.operationID, parentClaimID := claim.parentClaimID, claim
      succeeded := false, audited := false, updatedAt := now }
  let stored : NodeState := s.memory.store claim
  let journaled : NodeState := stored.putOperation written
  have hjournal : durableStep env config ⟨stored, stored, some (r, .applied claim)⟩
      (.journal now true) = some ⟨journaled, journaled, some (r, .journaled written)⟩ := by
    exact if_neg (Nat.not_le.mpr hroom)
  refine ⟨[.confirm answers true, .readParent, .applyChild now true, .journal now true, .broadcast],
    ⟨journaled, journaled, some (r, .broadcasting written)⟩, written, ?_, .inl rfl⟩
  exact run_append_eq_some.mpr ⟨_, h.run_child hvalid hidle,
    run_cons_eq_some.mpr ⟨_, hjournal, run_cons_eq_some.mpr ⟨_, rfl, run_nil _⟩⟩⟩

end

/-- **A takeover that was cut short stays retryable.**  From any state in which the parent of the
request is the local ownership, in memory and on disk, whatever happens in steps that meet the
condition: when the takeover of the request is not being served any more, the local ownership is
still the parent or the journal on disk has the operation with its claim; and a repetition of the
request comes to the broadcast again, in the first case once the peers confirm and the journal has
room. -/
theorem takeover_stays_retryable {acts : List DurableAct} (hvalid : r.valid env = true)
    (hidle : s.takeover = none) (hparent : LocalParent s.memory r)
    (hsaved : s.disk.activityOwnership r.handle = s.memory.activityOwnership r.handle)
    (hmeets : Meets (durableStep env config) (fun s a => keepsTakeover env config r s a =
      true) s acts)
    (hrun : run (durableStep env config) s acts = some s')
    (hended : ∀ phase, s'.takeover ≠ some (r, phase)) :
    (LocalParent s'.memory r ∨ InJournal s'.disk r) ∧ (s'.takeover = none →
      (LocalParent s'.memory r ∧ ∀ answers parent claim now,
        PeersConfirm env config s' r answers parent claim now →
        s'.memory.ownershipTakeovers.length < maxOwnershipTakeovers →
        ReachesBroadcast env config s' r) ∨
      (InJournal s'.disk r ∧ ReachesBroadcast env config s' r)) := by
  have hstart : TakeoverKept r s := .of_idle hidle hsaved (.inl hparent)
  have hkept : TakeoverKept r s' := run_invariant_of_meets (P := TakeoverKept r)
    (fun t a u ht hc hs => ht.after_step hc hs) hstart hmeets hrun
  rcases hkept.kept with hlocal | ⟨hmemory, hdisk⟩ | ⟨⟨c, ht⟩, -⟩
  · exact ⟨.inl hlocal, fun hidle' => .inl ⟨hlocal, fun answers parent claim now hconfirm hroom =>
      hconfirm.reachesBroadcast hvalid hidle' hroom⟩⟩
  · exact ⟨.inr hdisk, fun hidle' => .inr ⟨hdisk, hmemory.reachesBroadcast hvalid hidle'⟩⟩
  · exact absurd ht (hended _)

namespace ThreeAgents

/-- Node `2` holds the grant of node `1`; its journal is given. -/
def holding (journal : List OwnershipTakeoverOperation) : DurableAgent where
  memory := store ⟨fun _ => none, journal, true⟩ granted
  disk := store ⟨fun _ => none, journal, true⟩ granted
  takeover := none

/-- The user of `alice` confirms the takeover on node `2`. -/
def confirmedTakeover : OwnershipTakeoverRequest := ⟨"alice", grantID, operation⟩

def upToChild (saved : Bool) : List DurableAct :=
  [ .takeover confirmedTakeover, .confirm grantAnswers true, .readParent,
    .applyChild 1700000001000 saved ]

def withoutQuorum : List DurableAct :=
  upToChild true ++ [.journal 1700000001000 true, .broadcast, .finishBroadcast ∅, .restart]

end ThreeAgents

open ThreeAgents in
theorem takeover_stays_retryable_threeAgents : ∃ s',
    run (durableStep digests second) (holding []) withoutQuorum = some s' ∧ s'.takeover = none ∧
      (LocalParent s'.memory confirmedTakeover ∨ InJournal s'.disk confirmedTakeover) := by
  have hfacts : confirmedTakeover.valid digests ∧ Meets (durableStep digests second)
      (fun s a => keepsTakeover digests second confirmedTakeover s a) (holding [])
      withoutQuorum ∧
      ∃ s' ∈ run (durableStep digests second) (holding []) withoutQuorum, s'.takeover = none := by
    decide +kernel
  obtain ⟨hvalid, hmeets, s', hs', hidle⟩ := hfacts
  have hretry := takeover_stays_retryable hvalid rfl ⟨granted, rfl, rfl⟩ rfl hmeets hs'
    fun phase ht => by rw [hidle] at ht; cases ht
  exact ⟨s', hs', hidle, hretry.1⟩

open ThreeAgents in
/-- **A takeover can be lost.**  Node `2` has stored the child claim; then the agent crashes, or the
save of the journal entry fails, or the journal is full; or already the save of the child claim
fails. The local ownership is the child, the journal on disk does not have the operation, and a
retry finds no quorum because nobody else has heard of the child. -/
theorem takeover_lost :
    (∃ s', run (durableStep digests second) (holding []) (upToChild true ++ [.restart]) = some s' ∧
      s'.takeover = none ∧ ¬ LocalParent s'.memory confirmedTakeover ∧
      ¬ InJournal s'.disk confirmedTakeover ∧
      (s'.quorumQuery digests second ⟨[(2, taken), (3, granted)], [(2, true), (3, true)]⟩ true).2 =
        none) ∧ (∃ s', run (durableStep digests second) (holding [])
        (upToChild true ++ [.journal 1700000001000 false]) = some s' ∧ s'.takeover = none ∧
      ¬ LocalParent s'.memory confirmedTakeover ∧ ¬ InJournal s'.disk confirmedTakeover) ∧
    (∃ s', run (durableStep digests second) (holding []) (upToChild false) = some s' ∧
      s'.takeover = none ∧ ¬ LocalParent s'.memory confirmedTakeover ∧
      ¬ InJournal s'.disk confirmedTakeover) ∧ ∀ journal, maxOwnershipTakeovers ≤ journal.length →
      journal.find? (·.operationID = operation) = none →
      ∃ s', run (durableStep digests second) (holding journal)
          (upToChild true ++ [.journal 1700000001000 true]) = some s' ∧ s'.takeover = none ∧
        ¬ LocalParent s'.memory confirmedTakeover ∧ ¬ InJournal s'.disk confirmedTakeover := by
  refine ⟨by decide +kernel, by decide +kernel, by decide +kernel, fun journal hfull hunused => ?_⟩
  have hvalid : confirmedTakeover.valid digests := by decide +kernel
  have hconfirm : PeersConfirm digests second (holding journal) confirmedTakeover grantAnswers
      granted taken 1700000001000 :=
    { held := rfl, handle := rfl, identity := rfl
      decided := by
        have hempty : ((holding []).quorumQuery digests second grantAnswers true).2 =
            some (granted, .takeoverRequired) := by decide +kernel
        exact hempty
      child := by decide +kernel
      stores := by
        have hempty : (holding []).memory.storesClaim digests taken true := by
          decide +kernel
        exact hempty
      unused := hunused }
  let ended : DurableAgent :=
    ⟨(holding journal).memory.store taken, (holding journal).memory.store taken, none⟩
  refine ⟨ended, run_append_eq_some.mpr ⟨_, hconfirm.run_child hvalid rfl,
    run_cons_eq_some.mpr ⟨ended, ?_, run_nil _⟩⟩, rfl, ?_, ?_⟩
  · simp only [durableStep, DurableAgent.journal]
    exact if_pos hfull
  · rintro ⟨parent, ⟨⟩, hid⟩
    exact absurd hid (by decide)
  · rintro ⟨op, hop, -⟩
    cases hunused.symm.trans hop

end StControl.Agent
