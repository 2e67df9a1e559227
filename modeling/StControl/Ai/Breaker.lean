import Mathlib.Data.Int.Basic
import Mathlib.Data.List.Basic

/-!
# The circuit breaker of the AI worker

The supervisor asks its provider about one queued request after the other.  Each type of task has a
breaker: five failures in a row open it, and then it lets one call through every ten minutes.  A
call that is let through has to be recorded, or no other one follows.  Between the two `processOne`
has an exit for a type without a prompt, but all types that are parsed have one.
-/

namespace StControl.Ai

/-- The types that `ParseTaskType` knows. -/
inductive TaskType
  | conflictReview | disasterReview | recoveryPlan | scheduleRecommendation | anomalyAttribution
  | monitoringInspection | importReview
  deriving DecidableEq

/-- The types that have a prompt in `taskPrompts`. -/
def taskPrompts : List TaskType :=
  [.monitoringInspection, .disasterReview, .recoveryPlan, .conflictReview,
    .scheduleRecommendation, .anomalyAttribution, .importReview]

/-- `breaker`.  Times are seconds. -/
structure Breaker where
  failures : ℕ := 0
  openedAt : Option ℤ := none
  halfOpenTry : Bool := false
  deriving DecidableEq

def Breaker.allow (b : Breaker) (now : ℤ) : Bool × Breaker :=
  match b.openedAt with
  | none => (true, b)
  | some openedAt =>
    if 600 ≤ now - openedAt ∧ b.halfOpenTry = false then (true, { b with halfOpenTry := true })
    else (false, b)

def Breaker.record (b : Breaker) (ok : Bool) (now : ℤ) : Breaker :=
  if ok then {}
  else if 5 ≤ b.failures + 1 then ⟨b.failures + 1, some now, false⟩
  else { b with failures := b.failures + 1 }

/-- What comes back: nothing, a text that `ValidateAdvisory` refuses, or an advisory that the store
takes or not. -/
inductive Answer
  | providerError
  | refused (code : String)
  | advisory (stored : Bool)

structure AdvisoryRequest where
  now : ℤ
  taskType : Option TaskType
  answer : Answer

structure ProviderCall where
  now : ℤ
  ok : Bool

/-- `Supervisor`: the breakers, and the calls of each type, the newest first. -/
structure Supervisor where
  breakers : TaskType → Breaker
  calls : TaskType → List ProviderCall

def Supervisor.call (s : Supervisor) (task : TaskType) (brk : Breaker) (now : ℤ) (ok : Bool) :
    Supervisor :=
  ⟨Function.update s.breakers task (brk.record ok now),
    Function.update s.calls task (⟨now, ok⟩ :: s.calls task)⟩

/-- `processOne`, with the state and the code that the request is marked with. -/
def Supervisor.processOne (s : Supervisor) (req : AdvisoryRequest) : Supervisor × String × String :=
  match req.taskType with
  | none => (s, "failed", "unknown_task")
  | some task =>
    let (admitted, brk) := (s.breakers task).allow req.now
    let s' := { s with breakers := Function.update s.breakers task brk }
    if !admitted then (s', "skipped", "circuit_open")
    else if task ∉ taskPrompts then (s', "failed", "no_prompt")
    else
      match req.answer with
      | .providerError => (s'.call task brk req.now false, "failed", "provider_error")
      | .refused code => (s'.call task brk req.now false, "failed", code)
      | .advisory false => (s'.call task brk req.now true, "failed", "store_error")
      | .advisory true => (s'.call task brk req.now true, "succeeded", "")

def Supervisor.processAll (reqs : List AdvisoryRequest) : Supervisor :=
  reqs.foldr (fun req s => (s.processOne req).1) ⟨fun _ => {}, fun _ => []⟩

section

variable (calls : List ProviderCall)

def failuresInARow : ℕ := (calls.takeWhile (!·.ok)).length

def Due (now : ℤ) : Prop :=
  5 ≤ failuresInARow calls → ∀ last ∈ calls.head?, last.now + 600 ≤ now

def Spaced : Prop :=
  ∀ c earlier, c :: earlier <:+ calls → Due earlier c.now

end

structure Breaker.Knows (b : Breaker) (calls : List ProviderCall) : Prop where
  failures : b.failures = failuresInARow calls
  openedAt : b.openedAt = if 5 ≤ b.failures then calls.head?.map (·.now) else none
  halfOpenTry : b.halfOpenTry = false
  spaced : Spaced calls

section Knows

variable {b : Breaker} {calls : List ProviderCall} {now : ℤ} (h : b.Knows calls)
include h

lemma Breaker.Knows.allow_iff : (b.allow now).1 ↔ Due calls now := by
  have hopened := h.openedAt
  rw [h.failures] at hopened
  unfold allow Due
  split_ifs at hopened with hfive
  · cases hcalls : calls.head? with
    | none => simp [hopened, hcalls]
    | some last =>
      rw [hcalls] at hopened
      simp only [hopened, Option.map_some, h.halfOpenTry, and_true]
      split <;> simp [hfive] <;> omega
  · simp [hopened, hfive]

lemma Breaker.Knows.record (hallow : (b.allow now).1) (ok : Bool) :
    ((b.allow now).2.record ok now).Knows (⟨now, ok⟩ :: calls) := by
  have hspaced : Spaced (⟨now, ok⟩ :: calls) := by
    intro c earlier hsuffix
    rcases List.suffix_cons_iff.mp hsuffix with heq | hsuffix
    · obtain ⟨rfl, rfl⟩ := List.cons.inj heq
      exact h.allow_iff.mp hallow
    · exact h.spaced c earlier hsuffix
  cases ok with
  | true => exact ⟨rfl, rfl, rfl, hspaced⟩
  | false =>
    have hrow : b.failures + 1 = failuresInARow (⟨now, false⟩ :: calls) := by
      simp [failuresInARow, h.failures]
    unfold Breaker.record
    by_cases hfive : 5 ≤ b.failures + 1
    · have hcount : (b.allow now).2.failures = b.failures := by
        unfold allow
        split <;> [rfl; split_ifs <;> rfl]
      rw [if_neg Bool.false_ne_true, hcount, if_pos hfive]
      exact ⟨hrow, (if_pos hfive).symm, rfl, hspaced⟩
    · -- An open breaker has counted five failures.
      have hclosed : b.openedAt = none := h.openedAt.trans (if_neg (by omega))
      rw [allow, hclosed, if_neg Bool.false_ne_true, if_neg hfive]
      exact ⟨hrow, hclosed.trans (if_neg hfive).symm, h.halfOpenTry, hspaced⟩

end Knows

lemma processOne_eq (s : Supervisor) (now : ℤ) (task : TaskType) (answer : Answer) :
    ∃ ok, (s.processOne ⟨now, some task, answer⟩).1 = if ((s.breakers task).allow now).1 then
      s.call task ((s.breakers task).allow now).2 now ok else s := by
  have hprompt : task ∈ taskPrompts := by cases task <;> decide
  unfold Supervisor.processOne
  rcases hallow : (s.breakers task).allow now with ⟨_ | _, brk⟩
  · have hsame : brk = s.breakers task := by
      unfold Breaker.allow at hallow
      split at hallow <;> [skip; split_ifs at hallow] <;> cases hallow
      rfl
    exact ⟨true, by simp [hallow, hsame]⟩
  · simp only [hallow, hprompt, Supervisor.call, Function.update_idem]
    cases answer with
    | providerError | refused => exact ⟨false, rfl⟩
    | advisory stored => exact ⟨true, by cases stored <;> rfl⟩

lemma knows_processAll (reqs : List AdvisoryRequest) (task : TaskType) :
    ((Supervisor.processAll reqs).breakers task).Knows
    ((Supervisor.processAll reqs).calls task) := by
  induction reqs with
  | nil => exact ⟨rfl, rfl, rfl, by simp [Spaced, Supervisor.processAll]⟩
  | cons req reqs ih =>
    obtain ⟨now, _ | called, answer⟩ := req
    · exact ih
    · obtain ⟨ok, heq⟩ := processOne_eq (.processAll reqs) now called answer
      rw [Supervisor.processAll, List.foldr_cons, ← Supervisor.processAll, heq]
      split
      next hallow =>
        by_cases htask : task = called
        · subst htask
          simpa [Supervisor.call] using ih.record hallow ok
        · simpa [Supervisor.call, htask] using ih
      next => exact ih

/-- **The breaker neither floods nor sticks.**  After five failures in a row a call is made only
when the open period since the last one is over, and a request that comes then is a call. -/
theorem breaker_spaces_calls (reqs : List AdvisoryRequest) (task : TaskType) :
    let s := Supervisor.processAll reqs
    Spaced (s.calls task) ∧
      ∀ now answer, (∀ last ∈ (s.calls task).head?, last.now + 600 ≤ now) →
        ∃ ok, (s.processOne ⟨now, some task, answer⟩).1.calls task = ⟨now, ok⟩ :: s.calls task := by
  have h := knows_processAll reqs task
  refine ⟨h.spaced, fun now answer hlate => ?_⟩
  obtain ⟨ok, heq⟩ := processOne_eq (.processAll reqs) now task answer
  rw [heq, if_pos (h.allow_iff.mpr fun _ => hlate)]
  exact ⟨ok, Function.update_self ..⟩

end StControl.Ai
