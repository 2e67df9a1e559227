import StControl.Store.System

/-!
# The head of the clean-up queue

`ClaimReplicaCleanupTask` looks for the first task, over all users, whose copy may be deleted now,
and then marks the task, the copy and the replica row, each under a condition of its own.  If one of
the three finds nothing the transaction is rolled back with a fence error, and the worker stops
until its next round.

The query reads the copy and never the replica row of the node.  The two can disagree: a restore
puts the row of its target to `syncing`, also where a ready standby copy is, and leaves it at
`error` when it fails.  The task of such a copy is selected in every round and cannot be claimed in
any, and the tasks behind it are never reached (`cleanup_claim_blocked`). 
`cleanup_claim_progresses` says that this is the only obstacle.
-/

namespace StControl.Store

open Transaction Run Table

/-- What the query reads besides the tables: the task is due, the protection row is fresh and has
been stable, and the integrity of an archive is verified and, where a standby is to go, old enough.
-/
structure CleanupFacts where
  (due stable : Bool)
  verified : NodeID → Bool

structure CleanupEntry where
  db : Db
  taskID : UUID
  facts : CleanupFacts

def CleanupEntry.isArchive (e : CleanupEntry) (node : NodeID) (copy : ReplicaCopy) : Bool :=
  copy.replicaKind = .archive && copy.state = .ready && e.facts.verified node &&
    (copy.snapshotID.bind e.db.manifests.get?).any (fun m => m.state = .immutable) &&
    (e.db.nodes.get? node).any fun n => n.role = .storage && n.serving

def CleanupEntry.replaceable (e : CleanupEntry) (task : CleanupTask) : Bool :=
  match task.replicaKind with
  | .archive =>
    (e.db.nodes.get? task.nodeID).any (fun n => n.role = .storage) &&
      e.db.copies.any fun node copy => node ≠ task.nodeID && e.isArchive node copy
  | .hotStandby =>
    (e.db.nodes.get? task.nodeID).any (fun n => n.role = .compute) &&
      (e.db.user.homeNodeID.any fun home =>
        (e.db.nodes.get? home).any (fun n => n.role = .compute && n.serving) &&
          (e.db.replicas.get? home).any fun r => r.kind = .home && r.state = .ready) &&
      e.db.protection.any (fun s => s.state = .isProtected) && e.facts.stable &&
      e.db.copies.any e.isArchive
  | .active => false

/-- The query of `ClaimReplicaCleanupTask` finds the task. -/
def CleanupEntry.candidate (e : CleanupEntry) : Bool :=
  (e.db.cleanups.get? e.taskID).any fun task =>
    (task.state = .pending || task.state = .retryWait) && e.facts.due && e.db.quiet &&
      e.db.cleanupScope task &&
      (e.db.nodes.get? task.nodeID).any (fun n => n.serving && n.controlMode = .managed) &&
      (e.db.copies.get? task.nodeID).any (fun c =>
        c.state = task.replicaKind.disposable || c.state = .deleting) &&
      e.replaceable task

open CleanupEntry

/-- `ClaimReplicaCleanupTask`, on the tasks in the order of the query. -/
def claimReplicaCleanupTask (queue : List CleanupEntry) :
    Except StoreError (Option CleanupEntry) :=
  match queue.find? candidate with
  | none => .ok none
  | some e => (claimReplicaCleanup e.taskID e.db).map fun db => some { e with db }

def CleanupEntry.claimable (e : CleanupEntry) : Bool :=
  e.db.activeGeneration.isSome && (e.db.cleanups.get? e.taskID).any fun task =>
    (e.db.replicas.get? task.nodeID).any fun r => r.kind = task.replicaKind.replicaKind &&
      (r.state = task.replicaKind.disposableReplica || r.state = .deleting)

variable {e : CleanupEntry} {queue : List CleanupEntry}

lemma CleanupEntry.claim_iff (h : e.candidate) : Commits (claimReplicaCleanup e.taskID e.db)
      (fun db => candidate { e with db } = false) ↔ e.claimable := by
  obtain ⟨task, htask, h⟩ := (Option.any_eq_true ..).mp h
  simp only [Bool.and_eq_true, Bool.or_eq_true, decide_eq_true_eq] at h
  obtain ⟨⟨⟨⟨⟨⟨hopen, -⟩, hquiet⟩, hscope⟩, hnode⟩, hcopy⟩, -⟩ := h
  rw [claimable, Bool.and_eq_true, htask, Option.any_some, Option.isSome_iff_exists]
  simp only [claimReplicaCleanup, commits_need_bind, commits_require_bind, commits_pure]
  constructor
  · rintro ⟨generation, hgeneration, claimed, hclaimed, -, -, -, -, hreplica, -⟩
    obtain rfl : task = claimed := Option.some.inj (htask.symm.trans hclaimed)
    exact ⟨⟨generation, hgeneration⟩, hreplica⟩
  · rintro ⟨⟨generation, hgeneration⟩, hreplica⟩
    refine ⟨generation, hgeneration, task, htask, hopen, ⟨hquiet, hscope⟩, hnode, hcopy,
      hreplica, ?_⟩
    rw [candidate, get?_put_self]
    rfl

/-- **Progress of the clean-up.**  Where the query finds a task, `ClaimReplicaCleanupTask` takes it
out of the candidates exactly if its replica row is in the state of its copy. -/
theorem cleanup_claim_progresses (hhead : queue.find? candidate = some e) :
    (∃ e', claimReplicaCleanupTask queue = .ok (some e') ∧ e'.taskID = e.taskID ∧
      e'.candidate = false) ↔ e.claimable := by
  rw [← claim_iff (List.find?_some hhead)]
  simp only [claimReplicaCleanupTask, hhead, Commits]
  cases claimReplicaCleanup e.taskID e.db with
  | error | ok db => simp [Except.map]

/-- A standby on node `2` and an archive on node `3`. -/
def sampleCopies : List Act :=
  sampleTransfer 44 1 3 .archive 5 ++ [sampleCompletion 44 3 .archive 8] ++
    sampleTransfer 50 1 2 .hotStandby 10 ++ [sampleCompletion 50 2 .hotStandby 15]

def sampleCleanup (now : Time) : List Act :=
  [.reconcileProtectionStates now 1, .scheduleReplicaCleanup 70 2 50 .hotStandby]

def sampleEntry (db : Db) : CleanupEntry := ⟨db, 70, true, true, fun _ => true⟩

/-- A restore onto the node of the standby, which was away when the archive was offered, fails. -/
def sampleFailedRestore : List Act :=
  [ .environment (.node 1 { sampleCompute with connectivityState := .offline }),
    .environment (.node 2 { sampleCompute with connectivityState := .offline }),
    .reconcileProtectionStates 20 1,
    .environment (.node 2 sampleCompute),
    .createRestoreWorkflow
      { operationID := 60, requestDigest := 0, workflowID := 61, restoreSnapshotID := 62
        capabilityID := 63, capabilityHash := 64, capabilityExpires := 100, targetNodeID := 2
        expectedRecoveryAt := 8, now := 21 },
    .failRestoreWorkflow 61 30,
    .environment (.node 1 sampleCompute) ]

theorem cleanup_claim_progresses_standby :
    ∃ db, run step sampleDb (sampleCopies ++ sampleCleanup 20) = some db ∧
      ∃ e', claimReplicaCleanupTask [sampleEntry db, { sampleEntry db with taskID := 71 }] =
          .ok (some e') ∧ e'.taskID = 70 ∧ e'.candidate = false := by
  obtain ⟨db, hrun, hcandidate, hclaimable⟩ :
      ∃ db ∈ run step sampleDb (sampleCopies ++ sampleCleanup 20),
        (sampleEntry db).candidate ∧ (sampleEntry db).claimable := by decide +kernel
  exact ⟨db, hrun, (cleanup_claim_progresses (List.find?_cons_of_pos hcandidate)).mpr hclaimable⟩

/-- **One bad task blocks the queue.**  The task of the user whose restore has failed comes first
and is refused; nothing is written, so it comes first again, and the other user's task waits. -/
theorem cleanup_claim_blocked : ∃ blocked waiting,
      run step sampleDb (sampleCopies ++ sampleFailedRestore ++ sampleCleanup 40) = some blocked ∧
      run step sampleDb (sampleCopies ++ sampleCleanup 20) = some waiting ∧
      (sampleEntry blocked).candidate ∧ (sampleEntry waiting).candidate ∧
      (claimReplicaCleanupTask [sampleEntry waiting]).isOk ∧
      (claimReplicaCleanupTask [sampleEntry blocked, sampleEntry waiting]).isOk = false :=
  exists_states (by decide +kernel)

end StControl.Store
