import StControl.Controller.SnapshotSuccess
import StControl.Store.Promotions

/-!
# Workflows after a promotion

A promotion leaves every workflow of the earlier generation behind: no execution can claim it until
a reconciler has adopted it.  Snapshots and conflict resolutions are adopted; restores are listed
for execution but never adopted, so that a restore that was live at a promotion stays live for ever
and keeps the one slot that a user has for workflows.

`live_workflow_can_end` says that this is the only way in which a promotion strands a workflow.
-/

namespace StControl.Controller

open Store Run Transaction Option Table

variable {c : RetryConfig} {e : Execution} {now : Time} {db db' : Db} {id : UUID} {w : Workflow}
variable {act : ReconcilerAct}

/-- The workflow is attended to: there is an active generation, the execution finds the rows and
the nodes that it needs, and the row itself is in order. -/
structure Attended (c : RetryConfig) (db : Db) (id : UUID) (w : Workflow) : Prop where
  active : db.activeGeneration.isSome
  served : Served c db id w
  resumable : Resumable w
  capability : CapabilityReady db id w
  resolution : w.workflowType = .conflictResolution →
    w.state = .scheduled ∨ w.state = .transferring ∨ w.state = .publishing ∨ w.state = .retryWait

section

variable (hw : db.workflows.get? id = some w)
include hw

omit hw in
lemma Attended.stale (h : Attended c db id w) (hstale : db.isCurrent w = false) :
    ∃ generation, db.activeGeneration = some generation ∧ w.controllerGeneration ≠ generation := by
  obtain ⟨generation, hactive⟩ := isSome_iff_exists.mp h.active
  refine ⟨generation, hactive, ?_⟩
  rintro rfl
  simp [Db.isCurrent, hactive] at hstale

lemma adoptSnapshot_listed (hlive : w.state.live) (hattended : Attended c db id w)
    (htype : w.workflowType = .snapshot) (hstale : db.isCurrent w = false) :
    ∃ w' db', reconcilerStep c db (.adoptSnapshot id 0) = some db' ∧ Listed c db' id w' ∧
      w'.workflowType = .snapshot ∧ remaining c w' = remaining c w ∧
      db'.capabilities = db.capabilities := by
  obtain ⟨generation, hcurrent, hstep⟩ := reconcilerStep_adoptSnapshot (c := c) hw hlive htype
    hattended.active hstale 0
  exact ⟨_, _, hstep, ⟨get?_put_self .., hlive, hcurrent, hattended.served.move _ _ ..,
    fun hwaits => ⟨(hattended.resumable hwaits).1, 0, rfl⟩, hattended.capability⟩, htype, rfl, rfl⟩

lemma adoptResolution_listed (hattended : Attended c db id w)
    (htype : w.workflowType = .conflictResolution) (hstale : db.isCurrent w = false) :
    ∃ w' workflows, reconcilerStep c db (.adoptResolution id false 0) =
        some { db with workflows } ∧ Listed c { db with workflows } id w' ∧
      remaining c w' = remaining c w ∧ w'.workflowType = .conflictResolution ∧
      w'.state = .scheduled := by
  obtain ⟨generation, hactive, hother⟩ := hattended.stale hstale
  have hstep : reconcilerStep c db (.adoptResolution id false 0) = some { db with
      workflows := db.workflows.put id { w with
        controllerGeneration := generation, state := .scheduled, resumeState := none
        attempt := w.attempt + 0, generationRecoveries := w.generationRecoveries + 0
        nextAttemptAt := some 0, errorCode := some .controllerGenerationRecovery } } := by
    rw [reconcilerStep, step_eq_some, Act.transaction, adoptStaleConflictResolution]
    exact ok_need hactive (ok_need hw (ok_require ⟨htype, hother, hattended.resolution htype⟩ rfl))
  refine ⟨_, _, hstep, ⟨get?_put_self .., rfl, by simp [Db.isCurrent, hactive],
    hattended.served.move _ _ .., fun hwaits => ?_, .inl htype⟩, ?_, htype, rfl⟩
  · cases hwaits
  · simp [remaining, countedAttempts, htype]

lemma Attended.canEnd {G : Db → ReconcilerAct → Prop} (hlive : w.state.live)
    (hattended : Attended c db id w) (hallows : Allows G w)
    (hsupply : Supply db.capabilities (remaining c w + 1))
    (hrestore : w.workflowType = .restore → db.isCurrent w) : CanEndBy G c db id := by
  cases hcurrent : db.isCurrent w with
  | true =>
    have hlisted : Listed c db id w :=
      ⟨hw, hlive, hcurrent, hattended.served, hattended.resumable, hattended.capability⟩
    exact hlisted.canEnd hallows hsupply
  | false =>
    have hadopted : ∃ act w' db', reconcilerStep c db act = some db' ∧ act.answered db ∧
        Listed c db' id w' ∧ w'.workflowType ≠ .restore ∧ remaining c w' = remaining c w ∧
        db'.capabilities = db.capabilities := by
      cases htype : w.workflowType with
      | snapshot =>
        obtain ⟨w', db', hstep, hlisted, htype', hremaining, hcapabilities⟩ :=
          adoptSnapshot_listed (c := c) hw hlive hattended htype hcurrent
        exact ⟨_, w', db', hstep, rfl, hlisted, by rw [htype']; decide, hremaining, hcapabilities⟩
      | restore =>
        simp [hrestore htype] at hcurrent
      | conflictResolution =>
        obtain ⟨w', workflows, hstep, hlisted, hremaining, htype', -⟩ :=
          adoptResolution_listed (c := c) hw hattended htype hcurrent
        exact ⟨_, w', _, hstep, rfl, hlisted, by rw [htype']; decide, hremaining, rfl⟩
    obtain ⟨act, w', db', hstep, hact, hlisted, hother, hremaining, hcapabilities⟩ := hadopted
    refine .of_step hstep (hallows.answered _ _ hact) (hlisted.canEnd ⟨hallows.answered,
      fun htype => absurd htype hother⟩ ?_)
    rwa [hremaining, hcapabilities]

end

/-! ## Stranded restores -/

lemma adopted_snapshot (h : reconcilerStep c db (.adoptSnapshot id now) = some db') :
    ∃ w, db.workflows.get? id = some w ∧ w.state.live ∧ w.workflowType = .snapshot := by
  rw [reconcilerStep, step_eq_some, Act.transaction, adoptStaleSnapshotWorkflow] at h
  obtain ⟨generation, -, h⟩ := of_need h
  obtain ⟨w, hw, h⟩ := of_need h
  obtain ⟨⟨htype, hlive, -⟩, -⟩ := of_require h
  exact ⟨w, hw, hlive, htype⟩

lemma adopted_resolution {hadRelay : Bool}
    (h : reconcilerStep c db (.adoptResolution id hadRelay now) = some db') :
    ∃ w, db.workflows.get? id = some w ∧ w.state.live ∧ w.workflowType = .conflictResolution := by
  rw [reconcilerStep, step_eq_some, Act.transaction, adoptStaleConflictResolution] at h
  obtain ⟨generation, -, h⟩ := of_need h
  obtain ⟨w, hw, h⟩ := of_need h
  obtain ⟨⟨htype, -, hstate⟩, -⟩ := of_require h
  exact ⟨w, hw, by rcases hstate with h | h | h | h <;> rw [h] <;> rfl, htype⟩

lemma live_of_reconcilerStep (h : reconcilerStep c db act = some db') :
    ∃ id w, db.workflows.get? id = some w ∧ w.state.live ∧
      (db.isCurrent w ∨ w.workflowType ≠ .restore) := by
  cases act with
  | adoptSnapshot id now =>
    obtain ⟨w, hw, hlive, htype⟩ := adopted_snapshot h
    exact ⟨id, w, hw, hlive, .inr (by rw [htype]; decide)⟩
  | adoptResolution id hadRelay now =>
    obtain ⟨w, hw, hlive, htype⟩ := adopted_resolution h
    exact ⟨id, w, hw, hlive, .inr (by rw [htype]; decide)⟩
  | executeSnapshot id a now | executeRestore id a now | executeResolution id a now =>
    obtain ⟨db₁, hclaim, -⟩ := bind_eq_some_iff.mp h
    obtain ⟨w, hw, hlive, hcurrent⟩ := (of_claimWorkflow hclaim).1
    exact ⟨id, w, hw, hlive, .inl hcurrent⟩

section

variable (hone : db.OneLive) (hw : db.workflows.get? id = some w) (hlive : w.state.live)
  (htype : w.workflowType = .restore) (hstale : db.isCurrent w = false)
include hone hw hlive htype hstale

lemma reconcilerStep_of_stale_restore (act : ReconcilerAct) : reconcilerStep c db act = none := by
  rw [eq_none_iff_forall_ne_some]
  intro db' hstep
  obtain ⟨id', w', hw', hlive', hserved⟩ := live_of_reconcilerStep hstep
  obtain rfl := hone id id' w w' hw hw' hlive hlive'
  obtain rfl := mem_unique hw hw'
  rcases hserved with hcurrent | hother
  · simp [hstale] at hcurrent
  · exact hother htype

lemma not_canEnd_of_stale_restore : ¬ CanEnd c db id := by
  rintro ⟨acts, db', hrun, hended⟩
  cases acts with
  | nil =>
    cases hrun
    simp [hended w hw] at hlive
  | cons act acts =>
    obtain ⟨db₁, hstep, -⟩ := run_cons_eq_some.mp hrun
    simp [reconcilerStep_of_stale_restore hone hw hlive htype hstale] at hstep

end

/-! ## The result -/

lemma Receipted.canEnd {cleanupID : UUID} (h : Receipted c db id w cleanupID) : CanEnd c db id := by
  obtain ⟨acts, db', hrun, -, w', hw', hsucceeded⟩ := h.succeeds
  refine ⟨acts, db', hrun, fun w₁ hw₁ => ?_⟩
  obtain rfl := mem_unique hw' hw₁
  rw [hsucceeded]
  rfl

/-- **A promotion strands restores only.**  In every state that a run reaches, a live workflow that
is attended to, or whose receipt the target has, can come to its end by steps of the reconcilers,
unless it is a restore of an earlier generation. -/
theorem live_workflow_can_end {db₀ : Db} {acts : List Act} (hfresh : Fresh db₀)
    (hrun : run step db₀ acts = some db) (hw : db.workflows.get? id = some w)
    (hlive : w.state.live = true)
    (hattended : (Attended c db id w ∧ Supply db.capabilities (remaining c w + 1)) ∨
      ∃ cleanupID, Receipted c db id w cleanupID) :
    CanEnd c db id ↔ (w.workflowType = .restore → db.isCurrent w = true) := by
  constructor
  · intro hcan htype
    by_contra hstale
    exact not_canEnd_of_stale_restore (run_wellLinked hfresh.wellLinked hrun).oneLive hw hlive
      htype (Bool.not_eq_true _ ▸ hstale) hcan
  · intro hrestore
    rcases hattended with ⟨hattended, hsupply⟩ | ⟨cleanupID, hreceipted⟩
    · have hallows : Allows (fun _ _ => True) w := ⟨fun _ _ _ => trivial, fun _ _ _ _ => trivial⟩
      exact (hattended.canEnd hw hlive hallows hsupply hrestore).canEnd
    · exact hreceipted.canEnd

/-- An archive of the home has started when the controller is promoted, and the nodes come back. -/
def promotedSnapshot : List Act :=
  (sampleTransfer 50 1 3 .archive 10).take 2 ++
  [ .startSnapshotWorkflow 50, .promoteControllerEpoch 20, .environment (.node 1 sampleCompute),
    .environment (.node 3 sampleStorage) ]

theorem promoted_snapshot_can_end :
    ∃ db w, run step sampleDb promotedSnapshot = some db ∧ db.workflows.get? 50 = some w ∧
      w.state.live = true ∧ db.isCurrent w = false ∧ CanEnd sampleRetries db 50 := by
  obtain ⟨db, hrun, w, hw, htype, hstate, hstale, hremaining, hactive, hjob, hserved, hprepared,
      hfresh⟩ : ∃ db ∈ run step sampleDb promotedSnapshot, ∃ w ∈ db.workflows.get? 50,
        w.workflowType = .snapshot ∧ w.state = .quiescing ∧ db.isCurrent w = false ∧
          remaining sampleRetries w = 3 ∧ db.activeGeneration.isSome ∧
          (executionJob db 50 .snapshot).isSome ∧ SnapshotServed sampleRetries db 50 w ∧
          db.preparedCapabilities 50 = 1 ∧
          ∀ f ∈ ([⟨101, 101⟩, ⟨102, 102⟩, ⟨103, 103⟩, ⟨104, 104⟩] : List FreshCapability),
            f.FreshIn db.capabilities := by
    decide +kernel
  have hlive : w.state.live := by rw [hstate]; rfl
  have hattended : Attended sampleRetries db 50 w := by
    refine ⟨hactive, ⟨htype ▸ hjob, fun _ => hserved, ?_, ?_⟩, ?_, .inr (.inl hprepared), ?_⟩
    · rw [htype]; nofun
    · rw [htype]; nofun
    · rw [Resumable, hstate]; nofun
    · rw [htype]; nofun
  have hsupply : Supply db.capabilities (remaining sampleRetries w + 1) := by
    rw [hremaining]
    exact ⟨_, by decide, by decide, hfresh⟩
  have hcan := (live_workflow_can_end sampleDb_registered.toFresh hrun hw hlive
    (.inl ⟨hattended, hsupply⟩)).mpr (by rw [htype]; nofun)
  exact ⟨db, w, hrun, hw, hlive, hstale, hcan⟩

def promotedRestore : List Act :=
  sampleTransfer 50 1 3 .archive 10 ++ [.completeSnapshotWorkflow archiveCompletion] ++ homeLost ++
  [ .createRestoreWorkflow sampleRestore, .environment (.account 2 sampleAccount),
    .promoteControllerEpoch 1005,
    .environment (.node 2 sampleCompute),
    .environment (.node 3 sampleStorage) ]

/-- **A promotion strands a restore.**  It is attended to, but no steps of the reconcilers bring it
to an end. -/
theorem restore_stranded_by_promotion :
    ∃ db w, run step sampleDb promotedRestore = some db ∧ db.workflows.get? 71 = some w ∧
      w.state.live = true ∧ ∀ c, Attended c db 71 w ∧ ¬ CanEnd c db 71 := by
  obtain ⟨db, hrun, w, hw, htype, hstate, hstale, hactive, hjob, hserved, hprepared⟩ :
      ∃ db ∈ run step sampleDb promotedRestore, ∃ w ∈ db.workflows.get? 71,
        w.workflowType = .restore ∧ w.state = .scheduled ∧ db.isCurrent w = false ∧
          db.activeGeneration.isSome ∧ (executionJob db 71 .restore).isSome ∧
          RestoreServed db 71 w ∧ db.preparedCapabilities 71 = 1 := by
    decide +kernel
  have hlive : w.state.live := by rw [hstate]; rfl
  have hone := (run_wellLinked sampleDb_registered.toFresh.wellLinked hrun).oneLive
  refine ⟨db, w, hrun, hw, hlive, fun c => ⟨⟨hactive, ⟨htype ▸ hjob, ?_, fun _ => hserved, ?_⟩, ?_,
    .inr (.inl hprepared), ?_⟩, not_canEnd_of_stale_restore hone hw hlive htype hstale⟩⟩
  · rw [htype]; nofun
  · rw [htype]; nofun
  · rw [Resumable, hstate]; nofun
  · rw [htype]; nofun

end StControl.Controller
