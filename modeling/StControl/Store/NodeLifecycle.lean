import StControl.Store.Retiring

/-!
# The lifecycle of a node

Administrators change the state of a node along a table of transitions, which the heartbeat and the
retirement of the node keep to.  `EnrollAgent` makes the node active whatever its state is, and a
token can be created at any time, so that a node comes back whose access was revoked.
-/

namespace StControl.Store

open Run Option OperationalState

/-- The map `allowed` of `TransitionNodeLifecycle`. -/
def OperationalState.allowed : OperationalState → OperationalState → Bool
  | .pending, .active | .pending, .retired | .active, .maintenance | .active, .draining
  | .active, .degraded | .active, .failed | .maintenance, .active | .maintenance, .draining
  | .maintenance, .retired | .draining, .active | .draining, .maintenance
  | .retiring, .maintenance | .retiring, .decommissioned | .degraded, .active
  | .degraded, .maintenance | .degraded, .draining | .degraded, .failed | .failed, .maintenance
  | .failed, .retired | .decommissioned, .retired => true
  | _, _ => false

def OperationalState.gone (state : OperationalState) : Bool :=
  state = .decommissioned || state = .retired

/-- A node: its state, its open retirement operation, of which a unique index allows one, and the
expiry of its enrollment tokens.  Checks that can only refuse a step (the controller generation, the
role, the fingerprint) are left out. -/
structure NodeLifecycle where
  state : OperationalState
  retirement : Option RetirementState
  tokens : Table Digest Time

/-- The transactions.  `deferNodeRetirement` stands for `RetryNodeRetirementItem` too. -/
inductive LifecycleAct
  | transitionNodeLifecycle (toState : OperationalState) (hasItems dependent managed : Bool)
  | createEnrollmentToken (tokenHash : Digest) (expiresAt : Time)
  | enrollAgent (tokenHash : Digest) (now : Time)
  | heartbeat (online : Bool)
  | claimNodeRetirement
  | deferNodeRetirement (next : RetirementState)
  | finalizeNodeRetirement (unfinished dependent managed : Bool)

def lifecycleStep (s : NodeLifecycle) : LifecycleAct → Option NodeLifecycle
  | .transitionNodeLifecycle toState hasItems dependent managed =>
    -- `handleAdminTransitionNodeLifecycle` accepts any other target
    if s.state.allowed toState ∧ toState ≠ .decommissioned ∧
        (toState = .retired → managed ∧ !dependent) ∧
        (toState = .draining → s.retirement = none) then
      some
        { state := toState
          retirement :=
            if toState = .draining then some (if hasItems then .scheduled else .verifying)
            else if s.state.leaving ∧ (toState = .active ∨ toState = .maintenance) then none
            else s.retirement
          tokens := if toState = .retired then ∅ else s.tokens }
    else none
  | .createEnrollmentToken tokenHash expiresAt =>
    some { s with tokens := s.tokens.put tokenHash expiresAt }
  | .enrollAgent tokenHash now =>
    if (s.tokens.get? tokenHash).any (now < ·) then
      some { s with state := .active, tokens := s.tokens.delete fun hash _ => hash = tokenHash }
    else none
  | .heartbeat online =>
    some { s with state := if online ∧ s.state = .pending then .active else s.state }
  | .claimNodeRetirement =>
    if s.retirement.isSome ∧ s.state.leaving then
      some { s with
        state := .retiring
        retirement := some (if s.retirement = some .verifying then .verifying else .migrating) }
    else none
  | .deferNodeRetirement next =>
    if (s.retirement.any fun r => r = .migrating || r = .retryWait || r = .blocked) ∧
        (next = .retryWait ∨ next = .blocked) then
      some { s with retirement := some next }
    else none
  | .finalizeNodeRetirement unfinished dependent managed =>
    if (s.retirement.any fun r => r = .migrating || r = .verifying || r = .blocked) ∧
        s.state = .retiring ∧ managed ∧ !unfinished then
      if dependent then some { s with retirement := some .blocked }
      else some ⟨.decommissioned, none, ∅⟩
    else none

def OperationalState.follows (before after : OperationalState) : Bool :=
  before = after || before.allowed after || before = .draining && after = .retiring

def inPlace (s : NodeLifecycle) : LifecycleAct → Bool
  | .enrollAgent .. => s.state.follows .active && s.state ≠ .draining
  | _ => true

variable {created s s' : NodeLifecycle} {act : LifecycleAct} {acts acts' : List LifecycleAct}

def NodeLifecycle.Coupled (s : NodeLifecycle) : Prop := s.retirement.isSome = s.state.leaving

lemma NodeLifecycle.Coupled.step (h : s.Coupled) (hact : inPlace s act)
    (hstep : lifecycleStep s act = some s') :
    s'.Coupled ∧ s.state.follows s'.state ∧ (s.state.gone → s'.state.gone) := by
  unfold NodeLifecycle.Coupled at h ⊢
  cases act with
  | transitionNodeLifecycle toState =>
    obtain ⟨⟨hallowed, hhandler, -, hnone⟩, rfl⟩ := of_guarded hstep
    cases hs : s.state <;> cases toState <;> simp_all [allowed, follows, leaving, gone]
  | createEnrollmentToken => cases hstep; simp [follows, h]
  | enrollAgent =>
    obtain ⟨-, rfl⟩ := of_guarded hstep
    cases hs : s.state <;> simp_all [inPlace, allowed, follows, leaving, gone]
  | heartbeat online =>
    cases hstep
    cases hs : s.state <;> cases online <;> simp_all [allowed, follows, leaving, gone]
  | claimNodeRetirement =>
    obtain ⟨⟨-, hleaving⟩, rfl⟩ := of_guarded hstep
    cases hs : s.state <;> simp_all [follows, leaving, gone]
  | deferNodeRetirement =>
    obtain ⟨⟨hopen, -⟩, rfl⟩ := of_guarded hstep
    cases hr : s.retirement <;> simp_all [follows]
  | finalizeNodeRetirement unfinished dependent managed =>
    obtain ⟨⟨hopen, hstate, -⟩, hstep⟩ := ite_none_right_eq_some.mp hstep
    cases dependent <;> cases hstep <;> simp_all [allowed, follows, leaving, gone]

/-- **The lifecycle of a node is respected**, in every run in which agents are enrolled only on
nodes that may become active and are not being retired: an operation is open exactly while the node
is being retired, the state changes only along the transitions, and a node that was given up does
not become active again. -/
theorem lifecycle_respected (hcreated : created.state = .pending ∧ created.retirement = none)
    (hrun : run lifecycleStep created acts = some s) (hrun' : run lifecycleStep s acts' = some s')
    (hmeets : Meets lifecycleStep (fun s a => inPlace s a = true) created (acts ++ acts')) :
    s'.Coupled ∧ (s.state.gone = true → s'.state ≠ .active) ∧
      ∀ act t, inPlace s' act = true → lifecycleStep s' act = some t →
        s'.state.follows t.state = true := by
  obtain ⟨hmeets, hmeets'⟩ := meets_append.mp hmeets
  have hs : s.Coupled := run_invariant_of_meets (fun _ _ _ h hact hstep => (h.step hact hstep).1)
    (by simp [NodeLifecycle.Coupled, hcreated, leaving]) hmeets hrun
  obtain ⟨hs', hgone⟩ : s'.Coupled ∧ (s.state.gone → s'.state.gone) := by
    refine run_invariant_of_meets (P := fun t => t.Coupled ∧ (s.state.gone → t.state.gone))
      (fun t a u ht hact hstep => ?_) ⟨hs, id⟩ (hmeets' s hrun) hrun'
    obtain ⟨hu, -, hstays⟩ := ht.1.step hact hstep
    exact ⟨hu, fun h => hstays (ht.2 h)⟩
  refine ⟨hs', fun h hactive => ?_, fun act t hact hstep => (hs'.step hact hstep).2.1⟩
  have hstill := hgone h
  rw [hactive] at hstill
  cases hstill

def drainedNode : List LifecycleAct :=
  [.createEnrollmentToken 1 15, .enrollAgent 1 10,
    .transitionNodeLifecycle .draining false false true]

def retiredNode : List LifecycleAct :=
  drainedNode ++ [.claimNodeRetirement, .finalizeNodeRetirement false false true]

theorem lifecycle_respected_retirement :
    ∃ s, run lifecycleStep ⟨.pending, none, ∅⟩ retiredNode = some s ∧ s.state = .decommissioned ∧
      s.Coupled := by
  obtain ⟨s, hs, hstate⟩ : ∃ s ∈ run lifecycleStep ⟨.pending, none, ∅⟩ retiredNode,
      s.state = .decommissioned := by decide +kernel
  exact ⟨s, hs, hstate, (lifecycle_respected ⟨rfl, rfl⟩ hs (run_nil s) (by decide +kernel)).1⟩

/-- **An enrollment undoes a retirement.**  A node that was given up becomes active again; one that
is drained becomes active with its operation open, and cannot be drained any more. -/
theorem enrollments_out_of_place :
    (∃ s s', run lifecycleStep ⟨.pending, none, ∅⟩ retiredNode = some s ∧
      run lifecycleStep s [.createEnrollmentToken 2 30, .enrollAgent 2 20] = some s' ∧
      s.state = .decommissioned ∧ s'.state = .active) ∧
    ∃ s s', run lifecycleStep ⟨.pending, none, ∅⟩ drainedNode = some s ∧
      run lifecycleStep s [.createEnrollmentToken 2 30, .enrollAgent 2 20] = some s' ∧
      s'.state = .active ∧ s'.retirement.isSome ∧
      lifecycleStep s' (.transitionNodeLifecycle .draining true false true) = none := by
  constructor <;> exact exists_states (by decide +kernel)

end StControl.Store
