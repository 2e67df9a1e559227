import StControl.Store.Transitions

/-!
# Retiring the home

The retirement of the node on which a user lives moves the user off it: an item of kind
`authoritative_home` is opened, a snapshot of the user's data is taken to another node, and the
completion makes that node the home.  This module follows the node over the runs in between.

As long as the item is unfinished its operation is open and the node is `draining` or `retiring`
(`Retiring`, `Retiring.after_step`).  A node in these states can neither acquire a new writer nor
become the home by a takeover, a restore or another migration, so a node that is still the home
when the item completes has been the home all along (`RetiresHome.awaits_throughout`).  Sessions
that had expired when the snapshot was started stay over (`ExpiredOn.after_step`).

Two things are left to the conditions `retirementRespected` and `leaseNotRevived`.  Reports about a
node can overwrite its state, and a conflict resolution does not look at the state of its base; a
report about a session extends its lease even after it has expired.
-/

namespace StControl.Store

open Transaction Run Option Table

variable {db db' : Db} {act : Act}
variable {s : OperationalState}
variable {n : Node} {generation : ℤ} {retirementID otherID : UUID} {nodeID : NodeID} {now : Time}
  {p : CreateLoginHandoffParams} {fence : LeaseFence}

/-! ## A node under retirement -/

def OperationalState.leaving : OperationalState → Bool
  | .draining | .retiring => true
  | _ => false

lemma OperationalState.not_leaving_of_drainable (h : s.drainable) : s.leaving = false := by
  cases s <;> first | rfl | cases h

lemma OperationalState.ne_active_of_leaving (h : s.leaving) : s ≠ .active := by
  rintro rfl
  cases h

lemma Node.not_serving_of_leaving (h : n.operationalState.leaving) : n.serving = false := by
  simp [Node.serving, OperationalState.ne_active_of_leaving h]

lemma Node.acceptsLogin_of_leaving {existing : Bool} (h : n.operationalState.leaving)
    (haccepts : n.acceptsLogin generation existing) : existing := by
  simp only [Node.acceptsLogin, OperationalState.ne_active_of_leaving h, decide_false,
    Bool.false_or, Bool.and_eq_true] at haccepts
  exact haccepts.2.1

def Db.retiresUser (db : Db) (node : NodeID) : Bool :=
  db.retirementItems.any fun _ i => !i.state.terminal &&
    (db.retirements.get? i.retirementID).any fun r => r.nodeID = node

/-- Nothing puts a node that the user is being moved off back into service: no report about the
node overwrites its state, and no resolution makes it the home again. -/
def retirementRespected (db : Db) : Act → Bool
  | .completeConflictResolution p => (db.resolutions.get? p.operationID).all fun o =>
      db.user.homeNodeID = some o.baseNodeID || !db.retiresUser o.baseNodeID
  | .environment (.node nodeID row) => !db.retiresUser nodeID || row.operationalState.leaving
  | _ => true

/-- The item of the user's home in the retirement of `node`, with its operation.  As long as the
item is unfinished, the operation is open and the node is on its way out. -/
structure Retiring (db : Db) (itemID : UUID) (node : NodeID) (item : RetirementItem)
    (operation : NodeRetirement) : Prop where
  hasItem : db.retirementItems.get? itemID = some item
  hasOperation : db.retirements.get? item.retirementID = some operation
  kind : item.itemKind = .authoritativeHome
  ofNode : operation.nodeID = node
  sourced : ∀ id, item.workflowID = some id →
    ∃ w, db.workflows.get? id = some w ∧ w.sourceNodeID = node
  underway : item.state.terminal = false → operation.state.isOpen ∧
      ∃ n, db.nodes.get? node = some n ∧ n.operationalState.leaving

/-- The transaction creates the snapshot workflow `id` for the item. -/
def Act.serves (act : Act) (itemID id : UUID) : Prop :=
  ∃ p jobID, act = .createSnapshotWorkflow p ∧ p.request = .retirement itemID jobID ∧
    p.workflowID = id

/-- A later state of an item: it is not open again once it is over, and a workflow that it has got
was created for it. -/
structure RetirementItem.Follows (item item' : RetirementItem) (act : Act) (itemID : UUID) :
    Prop where
  terminal : item'.state.terminal = false → item.state.terminal = false
  workflow : ∀ id, item'.workflowID = some id → item.workflowID = some id ∨ act.serves itemID id

lemma RetirementItem.Follows.refl {act : Act} {itemID : UUID} (item : RetirementItem) :
    item.Follows item act itemID := ⟨id, fun _ => .inl⟩

def RetiringAfter (act : Act) (db' : Db) (itemID : UUID) (node : NodeID) (item : RetirementItem) :
    Prop :=
  ∃ item' operation', Retiring db' itemID node item' operation' ∧ item.Follows item' act itemID

section

variable {itemID : UUID} {node : NodeID} {item : RetirementItem} {operation : NodeRetirement}
  (h : Retiring db itemID node item operation)
include h

namespace Retiring

lemma retiresUser (hopen : item.state.terminal = false) : db.retiresUser node := by
  refine any_eq_true.mpr ⟨itemID, item, h.hasItem, ?_⟩
  simp [hopen, h.hasOperation, h.ofNode]

lemma of_same (hsame : SameRetirement db db') (hcommitted : Committed db act db') :
    RetiringAfter act db' itemID node item := by
  refine ⟨item, operation, ⟨by rw [hsame.items, h.hasItem], by rw [hsame.operations,
    h.hasOperation], h.kind, h.ofNode, fun id hid => ?_, fun hopen => ?_⟩, .refl item⟩
  · obtain ⟨w, hw, hsource⟩ := h.sourced id hid
    obtain ⟨w', hw', hkept⟩ := hcommitted.workflow_kept hw
    exact ⟨w', hw', hkept.source.trans hsource⟩
  · rw [hsame.nodes]
    exact h.underway hopen

lemma start {newID : UUID} {hasOtherItems : Bool} :
    Ensures (startNodeRetirement retirementID newID nodeID hasOtherItems db) fun db' =>
      RetiringAfter act db' itemID node item := by
  refine startNodeRetirement_commit.mono ?_
  rintro _ ⟨n, opened, hn, hdrainable, hretirement, hnew, -, -, rfl⟩
  have hitemNe : itemID ≠ newID := by
    rintro rfl
    simp [h.hasItem] at hnew
  have hretirementNe : item.retirementID ≠ retirementID := by
    intro heq
    simp [← heq, h.hasOperation] at hretirement
  refine ⟨item, operation, ⟨?_, ?_, h.kind, h.ofNode, h.sourced, fun hopen => ?_⟩, .refl item⟩
  · dsimp only [Db.openedItems]
    split
    · exact h.hasItem
    · rw [get?_put_of_ne hitemNe, h.hasItem]
  · rw [get?_put_of_ne hretirementNe, h.hasOperation]
  · obtain ⟨hisOpen, m, hm, hleaving⟩ := h.underway hopen
    refine ⟨hisOpen, m, ?_, hleaving⟩
    have hne : node ≠ nodeID := by
      rintro rfl
      obtain rfl := mem_unique hn hm
      simp [OperationalState.not_leaving_of_drainable hdrainable] at hleaving
    rw [get?_put_of_ne hne, hm]

lemma cancel {toActive : Bool} : Ensures (cancelNodeRetirement nodeID toActive db) fun db' =>
      RetiringAfter act db' itemID node item := by
  simp only [cancelNodeRetirement, ensures_steps]
  intro n hn _
  by_cases hnode : node = nodeID
  · subst hnode
    -- an item that is not over yet is superseded with its operation
    obtain ⟨item', hitem', hsame, hover⟩ : ∃ item' : RetirementItem, ((db.retirementItems.update
          (fun _ i => (db.retirements.get? i.retirementID).any (fun r => r.nodeID = node &&
            (r.state.isOpen || r.state = .cancelled)) &&
            i.state ≠ .succeeded && i.state ≠ .superseded)
          fun i => { i with state := .superseded }).get? itemID = some item') ∧
        (item'.retirementID = item.retirementID ∧ item'.itemKind = item.itemKind ∧
          item'.workflowID = item.workflowID) ∧ item'.state.terminal := by
      rw [get?_update, h.hasItem, map_some]
      split
      · exact ⟨_, rfl, ⟨rfl, rfl, rfl⟩, rfl⟩
      next hkept =>
        refine ⟨item, rfl, ⟨rfl, rfl, rfl⟩, ?_⟩
        by_contra hopen
        simp only [Bool.not_eq_true] at hopen
        obtain ⟨hisOpen, -⟩ := h.underway hopen
        apply hkept
        simp only [h.hasOperation, any_some, h.ofNode, hisOpen, decide_true, Bool.true_or,
          Bool.and_self, Bool.true_and, Bool.and_eq_true,
          decide_eq_true_eq]
        constructor <;> intro hs <;> rw [hs] at hopen <;> cases hopen
    obtain ⟨hid, hkind, hworkflow⟩ := hsame
    obtain ⟨operation', hoperation', hofNode⟩ : ∃ operation' : NodeRetirement,
        (db.retirements.update (fun _ r => r.nodeID = node && r.state.isOpen)
          fun r => { r with state := .cancelled }).get? item.retirementID = some operation' ∧
        operation'.nodeID = node := by
      rw [get?_update, h.hasOperation, map_some]
      split <;> exact ⟨_, rfl, h.ofNode⟩
    have hterminal : item'.state.terminal ≠ false := by simp [hover]
    refine ⟨item', operation', ⟨hitem', hid ▸ hoperation', hkind.trans h.kind, hofNode, ?_,
      fun hopen => absurd hopen hterminal⟩, fun hopen => absurd hopen hterminal, ?_⟩
    · rw [hworkflow]
      exact h.sourced
    · rw [hworkflow]
      exact fun _ => .inl
  · refine ⟨item, operation, ⟨?_, ?_, h.kind, h.ofNode, h.sourced, ?_⟩, .refl item⟩
    · simp [get?_update, h.hasItem, h.hasOperation, h.ofNode, hnode]
    · simp [get?_update, h.hasOperation, h.ofNode, hnode]
    · rw [get?_put_of_ne hnode]
      exact h.underway

lemma of_put {r r' : NodeRetirement} (hr : db.retirements.get? retirementID = some r)
    (hnode : r'.nodeID = r.nodeID) (hisOpen : r'.state.isOpen)
    (hleaving : n.operationalState.leaving) : Retiring
      { db with
        nodes := db.nodes.put r.nodeID n, retirements := db.retirements.put retirementID r' }
      itemID node item (if item.retirementID = retirementID then r' else operation) := by
  have hsame : item.retirementID = retirementID → r = operation := by
    rintro rfl
    exact mem_unique hr h.hasOperation
  refine ⟨h.hasItem, ?_, h.kind, ?_, h.sourced, fun hopen => ⟨?_, ?_⟩⟩
  · rw [get?_put]
    split
    · rfl
    · exact h.hasOperation
  · split
    next heq => rw [hnode, hsame heq, h.ofNode]
    · exact h.ofNode
  · split
    · exact hisOpen
    · exact (h.underway hopen).1
  · rw [get?_put]
    split
    · exact ⟨n, rfl, hleaving⟩
    · exact (h.underway hopen).2

lemma claim : Ensures (claimNodeRetirement retirementID db) fun db' =>
      RetiringAfter act db' itemID node item := by
  simp only [claimNodeRetirement, ensures_steps]
  intro r hr hisOpen _ n _ _
  have hclaimed : ({ r with state := if r.state = .verifying then .verifying else .migrating } :
      NodeRetirement).state.isOpen := by
    split <;> rfl
  exact ⟨item, _, h.of_put hr rfl hclaimed rfl, .refl item⟩

lemma retry {state : RetirementItemState} {clearWorkflow : Bool} :
    Ensures (retryNodeRetirementItem otherID state clearWorkflow db) fun db' =>
      RetiringAfter act db' itemID node item := by
  simp only [retryNodeRetirementItem, ensures_steps]
  rintro - other hother r hr - ⟨-, hopen⟩
  have hsame : item.retirementID = other.retirementID → r = operation := by
    intro heq
    rw [← heq] at hr
    exact mem_unique hr h.hasOperation
  have hisOpen : (if state = .blocked then RetirementState.blocked else .retryWait).isOpen =
      true := by
    split <;> rfl
  by_cases hitem : itemID = otherID
  · subst hitem
    obtain rfl := mem_unique hother h.hasItem
    obtain rfl := hsame rfl
    have hworkflow : ∀ id, (if clearWorkflow then none else other.workflowID) = some id →
        other.workflowID = some id := by
      intro id hid
      split at hid
      · cases hid
      · exact hid
    refine ⟨_, _, ⟨get?_put_self .., get?_put_self .., h.kind, h.ofNode, ?_,
      fun _ => ⟨hisOpen, (h.underway hopen).2⟩⟩, fun _ => hopen, fun id hid => .inl
        (hworkflow id hid)⟩
    exact fun id hid => h.sourced id (hworkflow id hid)
  · refine ⟨item, if item.retirementID = other.retirementID then
      { r with state := if state = .blocked then .blocked else .retryWait } else operation,
      ⟨by rw [get?_put_of_ne hitem, h.hasItem], ?_, h.kind, ?_, h.sourced,
        fun hopen' => ⟨?_, (h.underway hopen').2⟩⟩, .refl item⟩
    · rw [get?_put]
      split
      · rfl
      · exact h.hasOperation
    · split
      next heq => rw [hsame heq, h.ofNode]
      · exact h.ofNode
    · split
      · exact hisOpen
      · exact (h.underway hopen').1

lemma replicaItem : Ensures (completeNodeRetirementReplicaItem otherID db) fun db' =>
      RetiringAfter act db' itemID node item := by
  simp only [completeNodeRetirementReplicaItem, ensures_steps, ensures_ite]
  intro other hother r _ _ _
  refine ⟨fun _ _ => ⟨item, operation, h, .refl item⟩, fun _ => ?_⟩
  by_cases hitem : itemID = otherID
  · subst hitem
    obtain rfl := mem_unique hother h.hasItem
    rw [h.kind]
    exact ensures_error.mpr trivial
  · have hitems : (db.retirementItems.put otherID { other with state := .succeeded }).get? itemID =
        some item := by rw [get?_put_of_ne hitem, h.hasItem]
    split
    case h_4 => exact ensures_error.mpr trivial
    all_goals
      rw [ensures_require_bind, ensures_pure]
      intro _
      exact ⟨item, operation, { h with hasItem := hitems }, .refl item⟩

lemma promote :
    Ensures (promoteControllerEpoch now db) fun db' => RetiringAfter act db' itemID node item := by
  simp only [promoteControllerEpoch, ensures_steps]
  intro generation _
  refine ⟨item, operation, { h with underway := fun hopen => ?_ }, .refl item⟩
  obtain ⟨hisOpen, n, hn, hleaving⟩ := h.underway hopen
  refine ⟨hisOpen, ?_⟩
  rw [get?_update, hn, map_some]
  split
  · exact ⟨_, rfl, hleaving⟩
  · exact ⟨n, rfl, hleaving⟩

lemma environment {w : EnvironmentWrite} (hcond : retirementRespected db (.environment w)) :
    RetiringAfter act (w.apply db) itemID node item := by
  cases w with
  | node nodeID row =>
    refine ⟨item, operation, { h with underway := fun hopen => ?_ }, .refl item⟩
    obtain ⟨hisOpen, hnode⟩ := h.underway hopen
    refine ⟨hisOpen, ?_⟩
    dsimp only [EnvironmentWrite.apply]
    rw [get?_put]
    split
    next heq =>
      have hleaving : row.operationalState.leaving := by
        simpa [retirementRespected, ← heq, h.retiresUser hopen] using hcond
      exact ⟨row, rfl, hleaving⟩
    · exact hnode
  | account | userStatus | fault | reconciliation | job =>
    exact ⟨item, operation, { h with }, .refl item⟩

lemma snapshot {p : CreateSnapshotWorkflowParams} {accounts : Table NodeID NodeAccount}
    (hp : SnapshotCommit p db generation accounts) :
    RetiringAfter (.createSnapshotWorkflow p) (insertSnapshotWorkflow p generation accounts db)
      itemID node item := by
  have hfresh := (WorkflowCreated.snapshot hp).accepted.1
  have hsourced : ∀ id, item.workflowID = some id → ∃ w,
      (insertSnapshotWorkflow p generation accounts db).workflows.get? id = some w ∧
        w.sourceNodeID = node := by
    intro id hid
    obtain ⟨w, hw, hsource⟩ := h.sourced id hid
    have hne : id ≠ p.workflowID := by
      rintro rfl
      simp [hfresh] at hw
    exact ⟨w, (get?_put_of_ne hne).trans hw, hsource⟩
  have hkept : (insertSnapshotWorkflow p generation accounts db).retirementItems.get? itemID =
      some item → RetiringAfter (.createSnapshotWorkflow p)
        (insertSnapshotWorkflow p generation accounts db) itemID node item :=
    fun hitem => ⟨item, operation, ⟨hitem, h.hasOperation, h.kind, h.ofNode, hsourced,
      h.underway⟩, .refl item⟩
  cases hrequest : p.request with
  | ordinary | independent => exact hkept (by simp [insertSnapshotWorkflow, hrequest, h.hasItem])
  | retirement otherID jobID =>
    by_cases hitem : itemID = otherID
    · subst hitem
      have hadmitted := hp.admitted
      simp only [admitSnapshot, hrequest] at hadmitted
      obtain ⟨⟨r, hr, hsource⟩, hstate⟩ :=
        admitRetirementSnapshot_home h.hasItem h.kind () hadmitted
      obtain rfl := mem_unique hr h.hasOperation
      have hopen : item.state.terminal = false := by
        rcases hstate with hs | hs | hs | hs <;> rw [hs] <;> rfl
      refine ⟨{ item with
        state := .snapshotting, targetNodeID := some p.targetNodeID
        workflowID := some p.workflowID }, r,
        ⟨by simp [insertSnapshotWorkflow, hrequest, h.hasItem], h.hasOperation, h.kind, h.ofNode,
          fun id hid => ?_, fun _ => h.underway hopen⟩, fun _ => hopen, fun id hid => ?_⟩
      · cases hid
        exact ⟨_, get?_put_self .., hsource.symm.trans h.ofNode⟩
      · exact .inr ⟨p, jobID, rfl, hrequest, some.inj hid⟩
    · exact hkept (by simp [insertSnapshotWorkflow, hrequest, get?_modify_of_ne hitem, h.hasItem])

lemma migrated {workflowID : UUID} {other : RetirementItem} {r : NodeRetirement} {w : Workflow}
    {target : NodeID} (hp : MigrationCommit otherID workflowID now db other r w target) :
    RetiringAfter act (migrateHome otherID r.nodeID target now db) itemID node item := by
  by_cases hitem : itemID = otherID
  · subst hitem
    refine ⟨{ item with state := .succeeded }, operation,
      ⟨?_, h.hasOperation, h.kind, h.ofNode, h.sourced, nofun⟩, nofun, fun _ => .inl⟩
    dsimp only [migrateHome]
    rw [get?_modify_self, h.hasItem, map_some]
  · exact ⟨item, operation,
      { h with hasItem := (get?_modify_of_ne hitem).trans h.hasItem }, .refl item⟩

/-- **The retirement of a home goes on.**  A step either ends the item or leaves the node on its
way out. -/
theorem after_step (hcond : retirementRespected db act)
    (hstep : step db act = some db') : RetiringAfter act db' itemID node item := by
  have hcommitted := step_committed hstep
  have hok := step_eq_some.mp hstep
  have hsame : SameRetirement db db' → RetiringAfter act db' itemID node item :=
    fun hsame => h.of_same hsame hcommitted
  cases hcommitted with
  | frame hframe | session _ _ hframe _ => exact hsame hframe.toSameRetirement
  | lifecycle hlife _ =>
    cases act with
    | startNodeRetirement => exact h.start db' hok
    | cancelNodeRetirement => exact h.cancel db' hok
    | claimNodeRetirement => exact h.claim db' hok
    | retryNodeRetirementItem => exact h.retry db' hok
    | completeNodeRetirementReplicaItem => exact h.replicaItem db' hok
    | promoteControllerEpoch => exact h.promote db' hok
    | environment w => exact Except.ok.inj hok ▸ h.environment hcond
    | _ => cases hlife
  | snapshotCreated hp => exact h.snapshot hp
  | migrated hp => exact h.migrated hp
  | takeover | faultReported | repairCreated | restoreCreated | restored | resolutionCreated
  | resolved | restarted | imported | importFrozen | homeClaimed | claimed | cleaned =>
    exact hsame ⟨rfl, rfl, rfl⟩

end Retiring

end

/-! ## The home under retirement -/

/-- The user's home item in the retirement of `node`, for a user who has a home. -/
def RetiresHome (itemID : UUID) (node : NodeID) (db : Db) : Prop :=
  (∃ item operation, Retiring db itemID node item operation) ∧ db.user.homeNodeID.isSome

def AwaitsMigration (itemID : UUID) (node : NodeID) (db : Db) : Prop :=
  (∃ item, db.retirementItems.get? itemID = some item ∧ item.state.terminal = false) ∧
    db.user.homeNodeID = some node

lemma Committed.home_isSome (h : Committed db act db') (hhome : db.user.homeNodeID.isSome) :
    db'.user.homeNodeID.isSome := by
  have hchange := h.home
  generalize db'.user.homeNodeID = o at hchange ⊢
  cases hchange with
  | kept => exact hhome
  | founded | takenOver | restored | migrated | resolved => rfl

section

variable {itemID : UUID} {node : NodeID} (h : RetiresHome itemID node db)
include h

lemma RetiresHome.after_step (hcond : retirementRespected db act) (hstep : step db act = some db') :
    RetiresHome itemID node db' := by
  obtain ⟨⟨item, operation, hretiring⟩, hhome⟩ := h
  obtain ⟨item', operation', hretiring', -⟩ := hretiring.after_step hcond hstep
  exact ⟨⟨item', operation', hretiring'⟩, (step_committed hstep).home_isSome hhome⟩

lemma RetiresHome.leaving (hawaits : AwaitsMigration itemID node db) : db.retiresUser node ∧
      ∃ n, db.nodes.get? node = some n ∧ n.operationalState.leaving := by
  obtain ⟨⟨item, operation, hretiring⟩, -⟩ := h
  obtain ⟨⟨item', hitem', hopen⟩, -⟩ := hawaits
  obtain rfl := mem_unique hitem' hretiring.hasItem
  exact ⟨hretiring.retiresUser hopen, (hretiring.underway hopen).2⟩

lemma RetiresHome.awaits_before (hcond : retirementRespected db act)
    (hstep : step db act = some db') (hawaits : AwaitsMigration itemID node db') :
    AwaitsMigration itemID node db := by
  obtain ⟨⟨item, operation, hretiring⟩, hsome⟩ := h
  obtain ⟨item', operation', hretiring', hfollows⟩ := hretiring.after_step hcond hstep
  obtain ⟨⟨item'', hitem'', hopen'⟩, hhome'⟩ := hawaits
  obtain rfl := mem_unique hitem'' hretiring'.hasItem
  have hopen := hfollows.terminal hopen'
  refine ⟨⟨item, hretiring.hasItem, hopen⟩, ?_⟩
  have hchange := (step_committed hstep).home
  rw [hhome'] at hchange
  rcases hchange.serving with hhome | hnone | ⟨n, hn, hserving⟩ | ⟨p, w, o, rfl, hp, rfl⟩
  · exact hhome
  · simp [hnone] at hsome
  · obtain ⟨-, m, hm, hleaving⟩ := hretiring.underway hopen
    obtain rfl := mem_unique hn hm
    simp [Node.not_serving_of_leaving hleaving] at hserving
  · simpa [retirementRespected, hp.hasOperation, hretiring.retiresUser hopen] using hcond

/-- **The home does not come back.**  If the node is the home at the end of a run and its item
unfinished, both are so throughout the run. -/
theorem RetiresHome.awaits_throughout {acts xs ys : List Act} {t : Db}
    (hmeets : Meets step (fun s a => retirementRespected s a) db acts)
    (hrun : run step db acts = some db') (hawaits : AwaitsMigration itemID node db')
    (hsplit : acts = xs ++ ys) (ht : run step db xs = some t) :
    RetiresHome itemID node t ∧ AwaitsMigration itemID node t := by
  subst hsplit
  obtain ⟨hxs, hys⟩ := meets_append.mp hmeets
  obtain ⟨t', ht', hrest⟩ := run_append_eq_some.mp hrun
  obtain rfl := mem_unique ht' ht
  have htretires : RetiresHome itemID node t' :=
    run_invariant_of_meets (fun s a s' hs hcond hstep => hs.after_step hcond hstep) h hxs ht
  exact ⟨htretires, run_back_of_meets (fun s a s' hs hcond hstep => hs.after_step hcond hstep)
    (fun s a s' hs hcond hstep => hs.awaits_before hcond hstep) htretires (hys _ ht) hrest hawaits⟩

end

/-! ## Sessions on a node under retirement -/

def leaseNotRevived (db : Db) : Act → Bool
  | .renewActivityLease fence now _ =>
    db.lease.all fun l => !l.matchesFence fence || now < l.leaseExpiresAt
  | .updateActivityLeaseTelemetry p =>
    db.lease.all fun l => !l.matchesFence p.fence || p.now < l.leaseExpiresAt
  | _ => true

/-- A lease that stands for a writer on the node has expired by time `t₀`. -/
def ExpiredOn (node : NodeID) (t₀ : Time) (db : Db) : Prop :=
  ∀ l, db.lease = some l → l.writerNodeID = node → l.state.holding → l.leaseExpiresAt ≤ t₀

section

variable {node : NodeID} {t₀ : Time}

section

variable (h : ExpiredOn node t₀ db)
include h

lemma ExpiredOn.not_blocking {l : ActivityLease} (hl : db.lease = some l)
    (hwriter : l.writerNodeID = node) (hnow : t₀ ≤ now) : leaseBlocksNewWriter l now = false := by
  by_contra hblocks
  rw [Bool.not_eq_false, leaseBlocksNewWriter_iff] at hblocks
  have hexpired := h l hl hwriter hblocks.1
  exact absurd hblocks.2 (Int.not_lt.mpr (Int.le_trans hexpired hnow))

lemma ExpiredOn.login_elsewhere
    (hleaving : ∃ n, db.nodes.get? node = some n ∧ n.operationalState.leaving) (hnow : t₀ ≤ p.now)
    {lease : ActivityLease} {outcome : LeaseOutcome}
    (hdecision : LoginDecision p db generation lease outcome n) : lease.writerNodeID ≠ node := by
  intro hwriter
  obtain ⟨m, hm, hleaving⟩ := hleaving
  have hn := hdecision.reached
  rw [hwriter] at hn
  obtain rfl := mem_unique hn hm
  -- only an existing writer is let in, and then its lease blocked
  have hexisting := Node.acceptsLogin_of_leaving hleaving hdecision.accepts
  obtain ⟨l, hl, hsame, hblocks⟩ := decideLease_existing hdecision.decided hexisting
  have hfree : leaseBlocksNewWriter l (p.leaseParams generation).now = false :=
    h.not_blocking hl (hsame.trans hwriter) hnow
  simp [hfree] at hblocks

lemma ExpiredOn.of_update {p : ActivityLease → Bool} {f : ActivityLease → ActivityLease}
    (hlease : db'.lease = updateLease db.lease p f)
    (hf : ∀ l, (f l).writerNodeID = l.writerNodeID ∧ (f l).state = l.state)
    (halive : ∀ l, db.lease = some l → p l → t₀ < l.leaseExpiresAt) : ExpiredOn node t₀ db' := by
  intro l' hl' hwriter hholds
  rw [hlease] at hl'
  obtain ⟨l, hl, heq⟩ := map_eq_some_iff.mp hl'
  split at heq
  next hp =>
    subst heq
    obtain ⟨hsameWriter, hsameState⟩ := hf l
    have hexpired := h l hl (hsameWriter ▸ hwriter) (hsameState ▸ hholds)
    exact absurd (halive l hl hp) (Int.not_lt.mpr hexpired)
  · subst heq
    exact h l hl hwriter hholds

lemma ExpiredOn.after_login
    (hleaving : ∃ n, db.nodes.get? node = some n ∧ n.operationalState.leaving) (hnow : t₀ ≤ p.now) :
    Ensures (createLoginHandoff p db) fun r => ExpiredOn node t₀ r.2 := by
  refine createLoginHandoff_commit.mono ?_
  rintro r (⟨-, hr⟩ | ⟨generation, lease, outcome, n, hdecision, -, -, -, hr⟩)
  · rwa [hr]
  · rw [hr]
    intro l hl hwriter
    cases hl
    exact absurd hwriter (h.login_elsewhere hleaving hnow hdecision)

lemma ExpiredOn.after_consumption {p : ConsumeLoginHandoffParams} (hnow : t₀ ≤ p.now) :
    Ensures (consumeLoginHandoff p db) (ExpiredOn node t₀) := by
  simp only [consumeLoginHandoff, ensures_steps]
  rintro - ticket - - - n - - - account - - lease hlease ⟨-, -, halive⟩ l hl hwriter hholds
  cases hl
  have hexpired := h lease hlease hwriter hholds
  exact absurd halive (Int.not_lt.mpr (Int.le_trans hexpired hnow))

end

lemma alive_of_notRevived (hnow : t₀ ≤ now)
    (hcond : (db.lease.all fun l => !l.matchesFence fence || now < l.leaseExpiresAt))
    (l : ActivityLease) (hl : db.lease = some l)
    (hmatches : (l.matchesFence fence && decide (l.state = .active))) : t₀ < l.leaseExpiresAt := by
  rw [hl, all_some, (Bool.and_eq_true_iff.mp hmatches).1, Bool.not_true, Bool.false_or,
    decide_eq_true_eq] at hcond
  exact Int.lt_of_le_of_lt hnow hcond

section

variable (h : ExpiredOn node t₀ db)
include h

lemma ExpiredOn.after_renewal {ttl : Duration} (hnow : t₀ ≤ now)
    (hcond : leaseNotRevived db (.renewActivityLease fence now ttl)) :
    Ensures (renewActivityLease fence now ttl db) (ExpiredOn node t₀) := by
  simp only [renewActivityLease, ensures_steps]
  intro _
  exact h.of_update rfl (fun _ => ⟨rfl, rfl⟩) (alive_of_notRevived hnow hcond)

lemma ExpiredOn.after_telemetry {p : ActivityLeaseTelemetry} (hnow : t₀ ≤ p.now)
    (hcond : leaseNotRevived db (.updateActivityLeaseTelemetry p)) :
    Ensures (updateActivityLeaseTelemetry p db) (ExpiredOn node t₀) := by
  simp only [updateActivityLeaseTelemetry, ensures_steps]
  intro _
  exact h.of_update rfl (fun _ => ⟨rfl, rfl⟩) (alive_of_notRevived hnow hcond)

/-- **Expired sessions stay over.** -/
theorem ExpiredOn.after_step
    (hleaving : ∃ n, db.nodes.get? node = some n ∧ n.operationalState.leaving)
    (htime : ∀ t, act.leaseTime = some t → t₀ ≤ t) (hcond : leaseNotRevived db act)
    (hstep : step db act = some db') : ExpiredOn node t₀ db' := by
  have hok := step_eq_some.mp hstep
  have hheld : (∀ l, db'.lease = some l → l.state.holding → db.lease = some l) →
      ExpiredOn node t₀ db' :=
    fun hheld l hl hwriter hholds => h l (hheld l hl hholds) hwriter hholds
  by_cases hsession : act.session
  · cases act with
    | createLoginHandoff p => exact ensures_map.mpr (h.after_login hleaving (htime _ rfl)) db' hok
    | consumeLoginHandoff p => exact h.after_consumption (htime _ rfl) db' hok
    | renewActivityLease fence now ttl => exact h.after_renewal (htime _ rfl) hcond db' hok
    | updateActivityLeaseTelemetry p => exact h.after_telemetry (htime _ rfl) hcond db' hok
    | endActivityLease fence now =>
      obtain rfl := Except.ok.inj hok
      exact hheld fun l hl hholds => updateLease_held (fun _ => rfl) hl hholds
    | reconcileProtectionStates now conflictID =>
      exact hheld (reconcileProtectionStates_held db' hok)
    | _ => cases hsession
  · exact hheld fun l hl => (step_committed hstep).lease_held (by simpa using hsession) hl

end

end

end StControl.Store
