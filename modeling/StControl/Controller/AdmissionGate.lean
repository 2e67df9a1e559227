import StControl.Store.Reconciliations

/-!
# The admission gate of the controller

New logins, registrations and backups pass a flag in the memory of the controller.  It is meant to
be closed whenever the database says that the nodes are not reconciled.  A heartbeat that is not an
ordinary one closes it before its first transaction and once more after its last; it is opened by a
handler that has read `IsControlPlaneReady` and then writes the flag, in two steps.

The flag is modelled with the columns that `IsControlPlaneReady` reads, and with any number of
handlers between their transactions, each of which may fail midway.  What the rebuild of the
generation comes to is an argument of the transactions that keep its books.

A heartbeat of an independent node closes the gate, but its node is still offline after its first
transaction.  Another handler may then read that all is ready and open the gate, and the second
transaction brings the node online behind an open gate, for good if the handler fails after it
(`gate_open_unready`).  `gate_closed_unready`: if the gate is closed, and no handler is about to
open it, at each transaction that makes the control plane unready, it stays closed until it is ready
again. -/

namespace StControl.Controller

open Store Run Option Table

/-! ## Handlers -/

/-- The columns of `nodes` that `IsControlPlaneReady` reads. -/
structure GatedNode where
  (compute retired online hasCredential : Bool)
  (controlMode desiredControlMode : ControlMode)
  controllerGeneration : ℤ
  deriving DecidableEq

structure GateDb where
  generation : ℤ
  rebuildFinished : Bool
  nodes : Table NodeID GatedNode

def GateDb.isControlPlaneReady (db : GateDb) : Bool :=
  db.rebuildFinished && !db.nodes.any fun _ n =>
    n.compute && !n.retired && n.online && n.hasCredential &&
      (n.controlMode ≠ .managed || n.desiredControlMode ≠ .managed ||
        n.controllerGeneration ≠ db.generation)

structure GateHeartbeat where
  nodeID : NodeID
  authenticatedGeneration : ℤ
  mode : ControlMode
  deriving DecidableEq

/-- What a handler does next: the two transactions of a heartbeat and its last look at the gate, and
the two halves of `refreshControlPlaneGate`.  The read may fail. -/
inductive GateHandler
  | reconciles (heartbeat : GateHeartbeat)
  | updates (heartbeat : GateHeartbeat) (desired : ControlMode)
  | closes (heartbeat : GateHeartbeat) (desired : ControlMode)
  | reads
  | sets (ready : Option Bool)
  deriving DecidableEq

/-- The controller; `blocked` is `newOperationsBlocked`. -/
structure GateServer where
  db : GateDb
  blocked : Bool
  handlers : Table ℕ GateHandler

def heartbeatRequiresImmediateGate (authenticatedGeneration activeGeneration : ℤ)
    (mode : ControlMode) : Bool :=
  authenticatedGeneration ≤ 0 || activeGeneration ≤ 0 ||
    authenticatedGeneration ≠ activeGeneration || mode ≠ .managed

/-- A step of a handler, or a sweep.  The mode wanted of a draining node depends on other tables. -/
inductive ServerAct
  | heartbeat (id : ℕ) (heartbeat : GateHeartbeat)
  | reconcile (id : ℕ) (other : Db) (sessions pendingSyncs : ℕ) (rebuildFinished : Bool)
  | update (id : ℕ)
  | close (id : ℕ)
  | confirm (id : ℕ) (nodeID : NodeID) (rebuildFinished : Bool)
  | read (id : ℕ) (answered : Bool)
  | set (id : ℕ)
  | fail (id : ℕ)
  | sweep (stale : List NodeID) (rebuildFinished : Bool)

namespace GateServer

section

variable (s : GateServer)

def next (id : ℕ) (handler : GateHandler) : GateServer :=
  { s with handlers := s.handlers.put id handler }

def done (id : ℕ) : GateServer :=
  { s with handlers := s.handlers.delete fun k _ => k = id }

def commit (nodeID : NodeID) (f : GatedNode → GatedNode) (rebuildFinished : Bool) : GateServer :=
  { s with db := { s.db with rebuildFinished, nodes := s.db.nodes.modify nodeID f } }

/-- `ReconcileNodeControlModeAuthenticated`; a heartbeat of an earlier generation is only echoed. -/
def reconcile (id : ℕ) (h : GateHeartbeat) (desired : ControlMode) (rebuildFinished : Bool) :
    GateServer :=
  if h.authenticatedGeneration = s.db.generation then
    (s.commit h.nodeID (fun n => { n with
      controlMode := h.mode, desiredControlMode := desired
      controllerGeneration := s.db.generation }) rebuildFinished).next id (.updates h desired)
  else (s.commit h.nodeID (fun n => n) rebuildFinished).next id (.updates h h.mode)

/-- `UpdateNodeHeartbeat` and `UpdateNodeRecoveryHeartbeat`: only the first brings the node online.
-/
def update (id : ℕ) (h : GateHeartbeat) (desired : ControlMode) : GateServer :=
  (s.commit h.nodeID (fun n => { n with
    online := h.authenticatedGeneration = s.db.generation }) s.db.rebuildFinished).next id
      (.closes h desired)

def close (id : ℕ) (h : GateHeartbeat) (desired : ControlMode) : GateServer :=
  if h.authenticatedGeneration ≠ s.db.generation ∨ h.mode ≠ .managed ∨ desired ≠ .managed then
    { s.done id with blocked := true }
  else if s.blocked then s.next id .reads
  else s.done id

end

end GateServer

def serverStep (s : GateServer) : ServerAct → Option GateServer
  | .heartbeat id h =>
    let blocked := s.blocked ||
      heartbeatRequiresImmediateGate h.authenticatedGeneration s.db.generation h.mode
    if s.handlers.get? id = none then some ({ s with blocked }.next id (.reconciles h)) else none
  | .reconcile id other sessions pendingSyncs rebuildFinished =>
    match s.handlers.get? id with
    | some (.reconciles h) => some (s.reconcile id h
        (desiredControlMode other h.nodeID sessions pendingSyncs h.mode) rebuildFinished)
    | _ => none
  | .update id =>
    match s.handlers.get? id with
    | some (.updates h desired) => some (s.update id h desired)
    | _ => none
  | .close id =>
    match s.handlers.get? id with
    | some (.closes h desired) => some (s.close id h desired)
    | _ => none
  | .confirm id nodeID rebuildFinished =>
    if s.handlers.get? id = none then
      some ((s.commit nodeID (fun n => { n with controllerGeneration := s.db.generation })
        rebuildFinished).next id .reads)
    else none
  | .read id answered =>
    if s.handlers.get? id = some .reads then
      some (s.next id (.sets (if answered then some s.db.isControlPlaneReady else none)))
    else none
  | .set id =>
    match s.handlers.get? id with
    | some (.sets ready) => some { s.done id with blocked := ready ≠ some true }
    | _ => none
  | .fail id =>
    match s.handlers.get? id with
    | some (.reconciles _) | some (.updates ..) | some (.closes ..) => some (s.done id)
    | _ => none
  | .sweep stale rebuildFinished =>
    some { s with db := { s.db with
      rebuildFinished
      nodes := s.db.nodes.update (fun k _ => k ∈ stale) fun n => { n with online := false } } }

/-! ## The gate stays closed -/

def GateServer.shut (s : GateServer) : Bool :=
  s.blocked && !s.handlers.any fun _ h => h = .sets (some true)

def closesFirst (s : GateServer) (act : ServerAct) : Bool :=
  (serverStep s act).all fun s' =>
    !s.db.isControlPlaneReady || s'.db.isControlPlaneReady || s.shut

variable {s s' : GateServer} {act : ServerAct} {id : ℕ} {handler : GateHandler}

namespace GateServer

lemma shut_iff : s.shut ↔ s.blocked ∧ ∀ id, s.handlers.get? id ≠ some (.sets (some true)) := by
  rw [shut, Bool.and_eq_true, Bool.not_eq_true', Table.any_eq_false]
  refine and_congr_right fun _ => ⟨fun h id hid => ?_, fun h id handler hid => ?_⟩
  · simpa using h id _ hid
  · exact decide_eq_false fun heq => h id (heq ▸ hid)

lemma shut_next (h : s.shut) (hne : handler ≠ .sets (some true)) : (s.next id handler).shut := by
  obtain ⟨hblocked, hsets⟩ := shut_iff.mp h
  refine shut_iff.mpr ⟨hblocked, fun k hk => ?_⟩
  obtain ⟨-, heq⟩ | hk := of_get?_put hk
  · exact hne heq.symm
  · exact hsets k hk

lemma shut_done (h : s.shut) : (s.done id).shut := by
  obtain ⟨hblocked, hsets⟩ := shut_iff.mp h
  exact shut_iff.mpr ⟨hblocked, fun k hk => hsets k (of_get?_delete hk)⟩

lemma shut_congr (h : s.shut) {blocked : Bool} (hblocked : blocked) (db : GateDb) :
    GateServer.shut { s with db, blocked } :=
  shut_iff.mpr ⟨hblocked, (shut_iff.mp h).2⟩

lemma shut_step (h : s.shut) (hstep : serverStep s act = some s')
    (hready : s'.db.isControlPlaneReady = false) : s'.shut := by
  have hblocked : s.blocked := (shut_iff.mp h).1
  have hcommit : ∀ db, GateServer.shut { s with db } := shut_congr h hblocked
  cases act with
  | heartbeat id heartbeat =>
    obtain ⟨-, rfl⟩ := of_guarded hstep
    exact shut_next (shut_congr h (by rw [hblocked]; rfl) _) nofun
  | reconcile id other sessions pendingSyncs rebuildFinished =>
    simp only [serverStep] at hstep
    split at hstep
    · cases hstep
      unfold reconcile
      split <;> exact shut_next (hcommit _) nofun
    · cases hstep
  | update id =>
    simp only [serverStep] at hstep
    split at hstep
    · exact some.inj hstep ▸ shut_next (hcommit _) nofun
    · cases hstep
  | close id =>
    simp only [serverStep] at hstep
    split at hstep
    · cases hstep
      unfold close
      split
      · exact shut_congr (shut_done h) rfl _
      · exact shut_next h nofun
    · cases hstep
  | confirm id nodeID rebuildFinished =>
    obtain ⟨-, rfl⟩ := of_guarded hstep
    exact shut_next (hcommit _) nofun
  | read id answered =>
    obtain ⟨-, rfl⟩ := of_guarded hstep
    -- The database that is read is the one after the step.
    have hread : s.db.isControlPlaneReady = false := hready
    refine shut_next h ?_
    rw [hread]
    cases answered <;> nofun
  | set id =>
    simp only [serverStep] at hstep
    split at hstep
    · rename_i ready hsets
      cases hstep
      refine shut_congr (shut_done h) (decide_eq_true ?_) _
      rintro rfl
      exact (shut_iff.mp h).2 id hsets
    · cases hstep
  | fail id =>
    simp only [serverStep] at hstep
    split at hstep <;> first | exact some.inj hstep ▸ shut_done h | cases hstep
  | sweep stale rebuildFinished => exact some.inj hstep ▸ hcommit _

end GateServer

/-- **The gate stays closed while the control plane is unready**, in every run from a state in which
it is, as long as each transaction that makes it unready finds the gate shut. -/
theorem gate_closed_unready {acts : List ServerAct}
    (hstart : s.db.isControlPlaneReady = false → s.shut = true)
    (hmeets : Meets serverStep (fun s act => closesFirst s act = true) s acts)
    (hrun : run serverStep s acts = some s') (hunready : s'.db.isControlPlaneReady = false) :
    s'.blocked = true := by
  have hshut : s'.db.isControlPlaneReady = false → s'.shut := by
    refine run_invariant_of_meets
      (P := fun s => s.db.isControlPlaneReady = false → s.shut) ?_ hstart hmeets hrun
    intro s act s' hs hcond hstep hready
    refine GateServer.shut_step ?_ hstep hready
    cases hbefore : s.db.isControlPlaneReady with
    | false => exact hs hbefore
    | true => simpa [closesFirst, hstep, hbefore, hready] using hcond
  exact (GateServer.shut_iff.mp (hshut hunready)).1

/-! ## A gate that is left open -/

/-- Node `1` is managed; node `2` was managed when it was last seen. -/
def gateSample : GateServer where
  db :=
    { generation := 1, rebuildFinished := true
      nodes := (put ∅ 1 ⟨true, false, true, true, .managed, .managed, 1⟩).put 2
        ⟨true, false, false, true, .managed, .managed, 1⟩ }
  blocked := false
  handlers := ∅

/-- The first transaction of a heartbeat of node `2`, which comes back independent. -/
def independentReturn : List ServerAct :=
  [.heartbeat 0 ⟨2, 1, .independent⟩, .reconcile 0 sampleDb 0 0 true]

theorem gate_closed_unready_return : ∃ s,
    run serverStep gateSample (independentReturn ++ [.update 0, .close 0]) = some s ∧
      s.db.isControlPlaneReady = false ∧ s.blocked = true := by
  have hmeets : Meets serverStep (fun s act => closesFirst s act) gateSample
      (independentReturn ++ [.update 0, .close 0]) := by decide +kernel
  refine ⟨_, rfl, by decide +kernel, ?_⟩
  exact gate_closed_unready (by decide +kernel) hmeets rfl (by decide +kernel)

/-- **The gate is left open.**  Between the two transactions of the heartbeat one of node `1` opens
the gate, and the handler fails after the second: no handler is left, the control plane is not
ready, and requests pass. -/
theorem gate_open_unready : ∃ s, run serverStep gateSample
      (independentReturn ++ [.heartbeat 1 ⟨1, 1, .managed⟩, .reconcile 1 sampleDb 0 0 true,
        .update 1,
        .close 1, .read 1 true, .set 1, .update 0, .fail 0]) = some s ∧
    s.db.isControlPlaneReady = false ∧ s.blocked = false ∧
      s.handlers.any (fun _ _ => true) = false := by
  refine ⟨_, rfl, ?_⟩
  decide +kernel

end StControl.Controller
