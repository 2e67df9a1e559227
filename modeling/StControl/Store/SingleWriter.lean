import StControl.Store.Transitions

/-!
# One writer at a time

Over every run of the store the activity epoch of a user never falls, and within one epoch the row
stands for one writer node and one session only: once the row has left the holding states it does
not come back to them before the epoch moves.  Both follow from `Committed.lease`, which lists
what a step can do to the row.

While the lease blocks a new writer, its writer should not change either.  The one statement that
rewrites the writer of an existing epoch is the completion of a conflict resolution, which finds
the row by the epoch that the resolution has recorded.  A resolution that is created for a user
without a lease row records epoch `1`, which is also the epoch that the user's first login gets
afterwards: `writer_changes_while_blocking` is a run in which the completion takes a live lease
away from its writer.  `single_writer` proves that no other run does.
-/

namespace StControl.Store

open Run Option

variable {db db' db₀ : Db} {act : Act}
variable {requests : NodeID → Prop} {reports : Prop} {resolves : ActivityLease → NodeID → Prop}
  {o' : Option ActivityLease} {w' : Workflow}

/-! ## Epochs -/

/-- `l'` is a later state of the row `l`: the epoch has moved on, or it is the same and the row
stands for a writer only if it did before, and then for the same one. -/
def ActivityLease.Precedes (l l' : ActivityLease) : Prop :=
  l.activityEpoch < l'.activityEpoch ∨ (l'.activityEpoch = l.activityEpoch ∧
      (l'.state.holding → l.state.holding ∧ l'.writerNodeID = l.writerNodeID ∧
        l'.sessionID = l.sessionID))

lemma ActivityLease.Precedes.refl (l : ActivityLease) : l.Precedes l :=
  .inr ⟨rfl, fun h => ⟨h, rfl, rfl⟩⟩

variable {l : ActivityLease} {o : Option ActivityLease} {w : Workflow}

lemma ActivityLease.Precedes.trans {l' l'' : ActivityLease} (h : l.Precedes l')
    (h' : l'.Precedes l'') : l.Precedes l'' := by
  rcases h with hlt | ⟨heq, hsame⟩
  · rcases h' with hlt' | ⟨heq', -⟩
    · exact .inl (Int.lt_trans hlt hlt')
    · exact .inl (heq' ▸ hlt)
  rcases h' with hlt' | ⟨heq', hsame'⟩
  · exact .inl (heq ▸ hlt')
  · refine .inr ⟨heq'.trans heq, fun hholds => ?_⟩
    obtain ⟨hholds', hwriter', hsession'⟩ := hsame' hholds
    obtain ⟨hholds'', hwriter, hsession⟩ := hsame hholds'
    exact ⟨hholds'', hwriter'.trans hwriter, hsession'.trans hsession⟩

def LeasePrecedes (db db' : Db) : Prop :=
  ∀ l, db.lease = some l → ∃ l', db'.lease = some l' ∧ l.Precedes l'

lemma LeaseChange.precedes {now : Time} (h : LeaseChange now requests reports resolves o o')
    (hl : o = some l) : ∃ l', o' = some l' ∧ l.Precedes l' := by
  cases h with
  | unchanged => exact ⟨l, hl, .refl l⟩
  | @touched _ l' _ same before after =>
    cases hl
    refine ⟨l', rfl, .inr ⟨same.epoch, fun _ => ⟨?_, same.writer, same.session⟩⟩⟩
    rw [before]
    rfl
  | @closed _ l' closes =>
    cases hl
    refine ⟨l', rfl, .inr ⟨closes.same.epoch, fun hholds => ?_⟩⟩
    simp [closes.after] at hholds
  | @renewed _ l' _ _ writer epoch =>
    cases hl
    exact ⟨l', rfl, .inl (by omega)⟩
  | @acquired _ l' requested free epoch =>
    subst hl
    rw [nextEpoch] at epoch
    exact ⟨l', rfl, .inl (by omega)⟩
  | @rebased _ l' resolved session epoch after =>
    cases hl
    refine ⟨l', rfl, .inr ⟨epoch, fun hholds => ?_⟩⟩
    rw [after] at hholds
    cases hholds

lemma Committed.leasePrecedes (h : Committed db act db') : LeasePrecedes db db' := by
  intro l hl
  rcases h.lease with heq | ⟨now, -, hchange⟩
  · exact ⟨l, heq ▸ hl, .refl l⟩
  · exact hchange.precedes hl

/-- **Epochs over a run.**  Whatever happens between two moments of a run, the row at the first
precedes the row at the second. -/
theorem run_leasePrecedes {acts : List Act} (hrun : run step db acts = some db') :
    LeasePrecedes db db' := by
  refine run_rel (R := LeasePrecedes) (fun s l hl => ⟨l, hl, .refl l⟩)
    (fun s t u hst htu l hl => ?_)
    (fun s a s' hstep => (step_committed hstep).leasePrecedes) hrun
  obtain ⟨l₁, hl₁, hle⟩ := hst l hl
  obtain ⟨l₂, hl₂, hle'⟩ := htu l₁ hl₁
  exact ⟨l₂, hl₂, hle.trans hle'⟩

/-! ## Resolutions and the lease -/

def Workflow.unresolved (w : Workflow) : Bool :=
  w.workflowType = .conflictResolution && w.state ≠ .succeeded

/-- The login that creates the user's first lease row does not land between the creation and the
end of a conflict resolution, unless on the base of that resolution. -/
def firstLeaseUndisputed (db : Db) : Act → Bool
  | .createLoginHandoff p =>
    db.lease.isSome || db.workflows.all fun _ w => !w.unresolved || w.targetNodeID =
    p.requestedNodeID
  | _ => true

/-- The epoch that an unfinished resolution has recorded is over, or not held by anyone but its
base. -/
structure Workflow.Fenced (w : Workflow) (o : Option ActivityLease) : Prop where
  first : o = none → w.activityEpoch = 1
  behind : ∀ l, o = some l → w.activityEpoch ≤ l.activityEpoch
  held : ∀ l, o = some l → w.activityEpoch = l.activityEpoch → l.state.holding →
    l.writerNodeID = w.targetNodeID

def Db.ResolutionsFenced (db : Db) : Prop :=
  ∀ id w, db.workflows.get? id = some w → w.unresolved → w.Fenced db.lease

lemma Workflow.fenced_some : w.Fenced (some l) ↔ w.activityEpoch ≤ l.activityEpoch ∧
      (w.activityEpoch = l.activityEpoch → l.state.holding → l.writerNodeID = w.targetNodeID) := by
  constructor
  · intro h
    exact ⟨h.behind l rfl, h.held l rfl⟩
  · rintro ⟨hbehind, hheld⟩
    refine ⟨nofun, fun l' hl' => ?_, fun l' hl' => ?_⟩
    · exact some.inj hl' ▸ hbehind
    · exact some.inj hl' ▸ hheld

open Workflow

lemma Workflow.Fenced.of_change {now : Time} (h : w.Fenced o)
    (hfirst : o = none → ∀ n, requests n → n = w.targetNodeID)
    (hchange : LeaseChange now requests reports resolves o o') : w.Fenced o' := by
  cases hchange with
  | unchanged => exact h
  | @touched l l' _ same before after =>
    obtain ⟨hbehind, hheld⟩ := fenced_some.mp h
    have hholds : l.state.holding := by rw [before]; rfl
    refine fenced_some.mpr ⟨same.epoch.symm ▸ hbehind, fun hepoch _ => ?_⟩
    exact same.writer.trans (hheld (hepoch.trans same.epoch) hholds)
  | @closed l l' closes =>
    obtain ⟨hbehind, -⟩ := fenced_some.mp h
    refine fenced_some.mpr ⟨closes.same.epoch.symm ▸ hbehind, fun _ hholds => ?_⟩
    simp [closes.after] at hholds
  | @renewed l l' _ _ writer epoch =>
    obtain ⟨hbehind, -⟩ := fenced_some.mp h
    exact fenced_some.mpr ⟨by omega, fun hepoch => by omega⟩
  | @acquired _ l' requested free epoch =>
    cases o with
    | none =>
      have hone := h.first rfl
      rw [nextEpoch] at epoch
      exact fenced_some.mpr ⟨by omega, fun _ _ => hfirst rfl _ requested⟩
    | some l =>
      obtain ⟨hbehind, -⟩ := fenced_some.mp h
      rw [nextEpoch] at epoch
      exact fenced_some.mpr ⟨by omega, fun hepoch => by omega⟩
  | @rebased l l' resolved session epoch after =>
    obtain ⟨hbehind, -⟩ := fenced_some.mp h
    refine fenced_some.mpr ⟨epoch.symm ▸ hbehind, fun _ hholds => ?_⟩
    rw [after] at hholds
    cases hholds

lemma Workflow.Fenced.of_kept (h : w.Fenced o) (hw : w.Kept w') : w'.Fenced o where
  first := fun ho => hw.epoch.trans (h.first ho)
  behind := fun l hl => hw.epoch ▸ h.behind l hl
  held := fun l hl hepoch hholds =>
    (h.held l hl (hw.epoch ▸ hepoch) hholds).trans hw.target.symm

lemma Workflow.Kept.unresolved (hw : w.Kept w') (h : w'.unresolved) : w.unresolved := by
  simp only [Workflow.unresolved, Bool.and_eq_true,
    decide_eq_true_eq] at h ⊢
  exact ⟨hw.type ▸ h.1, fun hs => h.2 (hw.succeeded hs)⟩

lemma ResolutionCreation.fenced {p : CreateConflictResolutionParams} {conflict : ReplicaConflict}
    {generation : ℤ} (h : ResolutionCreation p db conflict generation) :
    (newWorkflow p.operationID .conflictResolution .ordinary p.baseNodeID p.baseNodeID
      db.leaseEpoch generation).Fenced db.lease := by
  have hfrozen := h.frozen
  refine ⟨fun hnone => ?_, fun l hl => ?_, fun l hl _ hholds => ?_⟩
  · simp [newWorkflow, Db.leaseEpoch, hnone]
  · simp [newWorkflow, Db.leaseEpoch, hl]
  · simp only [Db.leaseFrozen, hl, all_some, Bool.and_eq_true, Bool.not_eq_true',
      decide_eq_true_eq] at hfrozen
    rw [hfrozen.1] at hholds
    cases hholds

lemma WorkflowCreated.fenced {id : UUID} (hcreated : WorkflowCreated db act id w)
    (h : Committed db act db') (hunresolved : w.unresolved) : w.Fenced db'.lease := by
  cases hcreated with
  | snapshot | repair | restore => cases hunresolved
  | resolution hp =>
    rcases h.lease with heq | ⟨now, htime, -⟩
    · rw [heq]
      exact hp.fenced
    · cases htime

lemma firstLease_of_undisputed (hcond : firstLeaseUndisputed db act) {id : UUID}
    (hw : db.workflows.get? id = some w) (hunresolved : w.unresolved)
    (hnone : db.lease = none) (n : NodeID) (hrequest : act.requests n) : n = w.targetNodeID := by
  obtain ⟨p, rfl, rfl⟩ := hrequest
  simp only [firstLeaseUndisputed, hnone, isSome_none, Bool.false_or, Table.all_eq_true]
    at hcond
  simpa [hunresolved, eq_comm] using hcond id w hw

lemma Committed.resolutionsFenced (hfenced : db.ResolutionsFenced)
    (hcond : firstLeaseUndisputed db act) (h : Committed db act db') : db'.ResolutionsFenced := by
  have hlease : ∀ id w, db.workflows.get? id = some w → w.unresolved →
      w.Fenced db'.lease := by
    intro id w hw hunresolved
    have hw' := hfenced id w hw hunresolved
    rcases h.lease with heq | ⟨now, -, hchange⟩
    · exact heq ▸ hw'
    · exact hw'.of_change (firstLease_of_undisputed hcond hw hunresolved) hchange
  intro id w' hw' hunresolved
  rcases h.workflows with hkept | ⟨id', w, hcreated, htable⟩
  · obtain ⟨w, hw, hww'⟩ := hkept.before hw'
    exact (hlease id w hw (hww'.unresolved hunresolved)).of_kept hww'
  · rw [htable] at hw'
    obtain ⟨-, rfl⟩ | hw' := Table.of_get?_put hw'
    · exact hcreated.fenced h hunresolved
    · exact hlease id w' hw' hunresolved

lemma Fresh.resolutionsFenced (h : Fresh db) : db.ResolutionsFenced := by
  intro id w hw
  simp [h.workflows, Table.get?_empty] at hw

/-! ## The writer while the lease blocks -/

abbrev WriterKept (db : Db) (act : Act) (db' : Db) : Prop :=
  ∀ l, db.lease = some l → (∀ t, act.leaseTime = some t → leaseBlocksNewWriter l t) →
    ∃ l', db'.lease = some l' ∧ l'.writerNodeID = l.writerNodeID

lemma Db.ResolutionsFenced.resolves_eq (hlinked : db.ResolutionsLinked)
    (hfenced : db.ResolutionsFenced) (hl : db.lease = some l) (hholds : l.state.holding)
    {n : NodeID} (h : db.resolves l n) : n = l.writerNodeID := by
  obtain ⟨id, o, w, ho, rfl, hw, hpublishing, hepoch⟩ := h
  obtain ⟨w', hw', htype, htarget⟩ := hlinked id o ho
  obtain rfl : w = w' := by
    rw [hw] at hw'
    exact some.inj hw'
  have hunresolved : w.unresolved := by simp [unresolved, htype, hpublishing]
  rw [← htarget]
  exact ((hfenced _ w hw hunresolved).held l hl hepoch hholds).symm

lemma Committed.writerKept (hlinked : db.ResolutionsLinked) (hfenced : db.ResolutionsFenced)
    (h : Committed db act db') : WriterKept db act db' := by
  intro l hl hblocks
  rcases h.lease with heq | ⟨now, htime, hchange⟩
  · exact ⟨l, heq ▸ hl, rfl⟩
  have hnow := hblocks now htime
  have hrebase : ∀ n, db.resolves l n → n = l.writerNodeID := fun n =>
    hfenced.resolves_eq hlinked hl (holding_of_leaseBlocksNewWriter hnow)
  rw [hl] at hchange
  generalize db'.lease = o' at hchange ⊢
  cases hchange with
  | unchanged => exact ⟨l, rfl, rfl⟩
  | @touched _ l' _ same => exact ⟨l', rfl, same.writer⟩
  | @closed _ l' closes => exact ⟨l', rfl, closes.same.writer⟩
  | @renewed _ l' _ _ writer => exact ⟨l', rfl, writer⟩
  | @acquired _ l' _ free =>
    simp [free l rfl] at hnow
  | @rebased _ l' resolved => exact ⟨l', rfl, hrebase _ resolved.2⟩

/-- **Single-writer leases.**  In every run the epoch never decreases, and two moments at which the
row stands for a writer in the same epoch agree on writer and session.  In every run in which no
first login disputes an unfinished conflict resolution, no transaction changes the writer while
the lease blocks new writers. -/
theorem single_writer {before : List Act} (hfresh : Fresh db₀)
    (hbefore : run step db₀ before = some db) :
    (∀ later db', run step db later = some db' → ∀ l, db.lease = some l →
      ∃ l', db'.lease = some l' ∧ l.activityEpoch ≤ l'.activityEpoch ∧
        (l.state.holding = true → l'.state.holding = true → l.activityEpoch = l'.activityEpoch →
          l'.writerNodeID = l.writerNodeID ∧ l'.sessionID = l.sessionID)) ∧
    (Meets step (fun s a => firstLeaseUndisputed s a = true) db₀ before →
      ∀ act db', step db act = some db' → WriterKept db act db') := by
  constructor
  · intro later db' hlater l hl
    obtain ⟨l', hl', hprecedes⟩ := run_leasePrecedes hlater l hl
    refine ⟨l', hl', ?_⟩
    rcases hprecedes with hlt | ⟨heq, hsame⟩
    · exact ⟨Int.le_of_lt hlt, fun _ _ hepoch => absurd hepoch (Int.ne_of_lt hlt)⟩
    · exact ⟨Int.le_of_eq heq.symm, fun _ hholds _ => (hsame hholds).2⟩
  · intro hmeets act db' hstep
    have hlinked := (run_wellLinked hfresh.wellLinked hbefore).resolutions
    have hfenced := run_invariant_of_meets (P := Db.ResolutionsFenced)
      (fun s a s' hs hcond hstep => (step_committed hstep).resolutionsFenced hs hcond)
      hfresh.resolutionsFenced hmeets hbefore
    exact (step_committed hstep).writerKept hlinked hfenced

theorem single_writer_after_login :
    ∃ db l, run step sampleDb [.createLoginHandoff (sampleLogin 30 1 13)] = some db ∧
      db.lease = some l ∧ leaseBlocksNewWriter l 20 = true ∧
      ∀ act db', step db act = some db' → WriterKept db act db' := by
  obtain ⟨db, hrun, hlease⟩ : ∃ db,
      run step sampleDb [.createLoginHandoff (sampleLogin 30 1 13)] = some db ∧
      db.lease = some (freshLease ((sampleLogin 30 1 13).leaseParams 1) 1 1) := by
    refine ⟨_, rfl, rfl⟩
  have hmeets : Meets step (fun s a => firstLeaseUndisputed s a) sampleDb
      [.createLoginHandoff (sampleLogin 30 1 13)] := ⟨by decide, fun _ _ => trivial⟩
  exact ⟨db, _, hrun, hlease, by decide, (single_writer sampleDb_registered.toFresh hrun).2 hmeets⟩

/-- The user has never logged in when an import turns the account on node `2` into a conflict.  The
resolution is created with base `2`; a login that was decided before the freeze then creates the
first lease on node `1`. -/
def disputedFirstLease : List Act :=
  .linkImportCandidate 2 "user" false 10 :: sampleResolution 2 1 11 ++
    [.createLoginHandoff (sampleLogin 30 1 13)]

/-- **The writer of a live lease can change.**  The completion finds the lease of the first login
under epoch `1`, which blocks new writers until `613`, and hands it to node `2` at time `20`. -/
theorem writer_changes_while_blocking :
    ¬ ∀ (db₀ : Db) (home : NodeID) (before : List Act) (db : Db) (act : Act) (db' : Db),
      Registered db₀ home → run step db₀ before = some db → step db act = some db' →
      WriterKept db act db' := by
  intro hkept
  obtain ⟨db, hrun, db', hstep, hchanged⟩ : ∃ db ∈ run step sampleDb disputedFirstLease,
      ∃ db' ∈ step db (.completeConflictResolution (sampleResolved 20)),
        ¬ WriterKept db (.completeConflictResolution (sampleResolved 20)) db' := by
    decide +kernel
  exact hchanged (hkept _ _ _ db _ db' sampleDb_registered hrun hstep)

end StControl.Store
