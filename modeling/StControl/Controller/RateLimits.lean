import Mathlib.Data.Int.Basic
import StControl.Foundations.Run
import StControl.Foundations.Table

/-!
# The rate limiter

`rateLimiter` counts the requests of every key in windows of a fixed length.  A window starts with
the first request after the one before has passed, and lets `limit` requests through.  Buckets that
have expired are evicted once a minute, and a key that is not tracked is refused while the table is
full.

Apart from that refusal a key is served as if it were alone (`answers_simulated`): an eviction only
forgets what the next request would reset.  And a limiter of one bucket starts its windows at least
`window` apart, so that an interval of that length never meets three of them (`within_single`).
-/

namespace StControl.Controller

open Option Run List

/-! ## The limiter -/

structure RateBucket where
  (windowAt count : ℤ)

/-- The settings of a `rateLimiter`; durations are in nanoseconds. -/
structure RateLimiter where
  (limit window maxKeys : ℤ)
  limit_pos : 0 < limit
  window_pos : 0 < window
  maxKeys_pos : 0 < maxKeys

def newRateLimiter (limit window maxKeys : ℤ) : RateLimiter where
  limit := if limit ≤ 0 then 60 else limit
  window := if window ≤ 0 then 60000000000 else window
  maxKeys := if maxKeys ≤ 0 then 100000 else maxKeys
  limit_pos := by split <;> omega
  window_pos := by split <;> omega
  maxKeys_pos := by split <;> omega

/-- The rest of a `rateLimiter`. -/
structure RateTable where
  buckets : Table String RateBucket
  lastGC : ℤ

namespace RateLimiter

variable (l : RateLimiter)

/-- The eviction at the start of `allow`. -/
def evict (s : RateTable) (now : ℤ) : RateTable :=
  if now - s.lastGC > 60000000000 then
    ⟨s.buckets.delete fun _ b => now - b.windowAt > l.window, now⟩
  else s

def tick (b : Option RateBucket) (now : ℤ) : RateBucket :=
  let b := b.getD ⟨now, 0⟩
  let b := if now - b.windowAt ≥ l.window then ⟨now, 0⟩ else b
  { b with count := b.count + 1 }

def allow (s : RateTable) (key : String) (now : ℤ) : Bool × RateTable :=
  let s := l.evict s now
  let b := s.buckets.get? key
  if b.isNone ∧ s.buckets.keys.length ≥ l.maxKeys then (false, s)
  else
    let b := l.tick b now
    (b.count ≤ l.limit, { s with buckets := s.buckets.put key b })

/-- One call of `allow`, with its key and its time. -/
def step (s : RateTable) (call : String × ℤ) : Option RateTable := (l.allow s call.1 call.2).2

def answers (key : String) : RateTable → List (String × ℤ) → List (ℤ × Bool)
  | _, [] => []
  | s, (k, now) :: calls =>
    let r := l.allow s k now
    if k = key then (now, r.1) :: answers key r.2 calls else answers key r.2 calls

def single : Option RateBucket → List (String × ℤ) → List (ℤ × Bool)
  | _, [] => []
  | b, (_, now) :: calls =>
    let b := l.tick b now
    (now, b.count ≤ l.limit) :: single (some b) calls

def within (first last : ℤ) (answers : List (ℤ × Bool)) : ℕ :=
  answers.countP fun a => first ≤ a.1 ∧ a.1 ≤ last ∧ a.2

lemma within_cons (p q : ℤ) (a : ℤ × Bool) (answers : List (ℤ × Bool)) :
    within p q (a :: answers) = within p q answers + if p ≤ a.1 ∧ a.1 ≤ q ∧ a.2 then 1 else 0 := by
  simp [within, countP_cons]

variable {s s' : RateTable} {now t : ℤ} {b : Option RateBucket} {calls : List (String × ℤ)}

/-! ## The table -/

lemma keys_evict_le (s : RateTable) (now : ℤ) :
    (l.evict s now).buckets.keys.length ≤ s.buckets.keys.length := by
  unfold evict
  split
  · refine Table.length_keys_le fun k hk => ?_
    obtain ⟨b, hb⟩ := isSome_iff_exists.mp hk
    exact isSome_iff_exists.mpr ⟨b, Table.of_get?_delete hb⟩
  · exact Nat.le_refl _

variable {l}

lemma keys_step_le {call : String × ℤ} (h : s.buckets.keys.length ≤ l.maxKeys)
    (hstep : l.step s call = some s') : s'.buckets.keys.length ≤ l.maxKeys := by
  obtain rfl := some.inj hstep
  have hevict := l.keys_evict_le s call.2
  dsimp only [allow]
  split
  · dsimp only; omega
  next hroom =>
    dsimp only
    rw [Table.put, AList.keys_insert, length_cons]
    by_cases htracked : call.1 ∈ (l.evict s call.2).buckets.keys
    · have := length_erase_add_one htracked
      omega
    · have := not_and.mp hroom (by simpa [Table.mem_keys_iff] using htracked)
      rw [erase_of_not_mem htracked]
      omega

lemma tick_evict {key : String} (hnow : now ≤ t) :
    l.tick ((l.evict s now).buckets.get? key) t = l.tick (s.buckets.get? key) t := by
  unfold evict
  split
  · rw [Table.get?_delete]
    cases s.buckets.get? key with
    | none => rfl
    | some b =>
      rw [Option.filter_some]
      split
      · rfl
      next hexpired =>
        have : l.window ≤ t - b.windowAt := by simp at hexpired; omega
        simp [tick, this]
  · rfl

lemma answers_simulated (key : String) (hsorted : calls.Pairwise fun c d => c.2 ≤ d.2)
    (h : ∀ c ∈ calls, l.tick (s.buckets.get? key) c.2 = l.tick b c.2) :
    (∃ counted, counted.Sublist (calls.filter (·.1 = key)) ∧
      ∀ p q, within p q (l.answers key s calls) = within p q (l.single b counted)) ∧
    (Meets l.step (fun s _ => s.buckets.keys.length < l.maxKeys) s calls →
      l.answers key s calls = l.single b (calls.filter (·.1 = key))) := by
  induction calls generalizing s b with
  | nil => exact ⟨⟨[], .slnil, fun _ _ => rfl⟩, fun _ => rfl⟩
  | cons c calls ih =>
    obtain ⟨k, time⟩ := c
    obtain ⟨hlater, hsorted⟩ := pairwise_cons.mp hsorted
    have hevict : ∀ c ∈ calls, l.tick ((l.evict s time).buckets.get? key) c.2 = l.tick b c.2 :=
      fun c hc => (tick_evict (hlater c hc)).trans (h c (mem_cons_of_mem _ hc))
    by_cases hk : k = key
    · subst hk
      simp only [answers, filter_cons, decide_true, if_true]
      by_cases hfull : ((l.evict s time).buckets.get? k).isNone ∧
          (l.evict s time).buckets.keys.length ≥ l.maxKeys
      · have hallow : l.allow s k time = (false, l.evict s time) := if_pos hfull
        obtain ⟨⟨counted, hsub, hwithin⟩, -⟩ := ih hsorted hevict
        refine ⟨⟨counted, hsub.cons _, fun p q => ?_⟩, fun hroom => ?_⟩
        · simp [← hwithin, hallow, within_cons]
        · have := hroom.1
          have := l.keys_evict_le s time
          omega
      · have hallow : l.allow s k time = (decide ((l.tick b time).count ≤ l.limit),
            { l.evict s time with buckets := (l.evict s time).buckets.put k (l.tick b time) }) := by
          rw [← h _ mem_cons_self, ← tick_evict (Int.le_refl time)]
          exact if_neg hfull
        obtain ⟨⟨counted, hsub, hwithin⟩, hall⟩ := ih (s := (l.allow s k time).2)
          (b := some (l.tick b time)) hsorted fun c _ => by rw [hallow, Table.get?_put_self]
        refine ⟨⟨(k, time) :: counted, hsub.cons_cons _, fun p q => ?_⟩, fun hroom => ?_⟩
        · rw [single, within_cons, within_cons, hwithin, hallow]
        · rw [single, hall (hroom.2 _ rfl), hallow]
    · simp only [answers, filter_cons, hk, decide_false, if_false]
      have hother : (l.allow s k time).2.buckets.get? key = (l.evict s time).buckets.get? key := by
        dsimp only [allow]
        split
        · rfl
        · exact Table.get?_put_of_ne (Ne.symm hk)
      obtain ⟨hsub, hall⟩ := ih (s := (l.allow s k time).2) hsorted (by rwa [hother])
      exact ⟨hsub, fun hroom => hall (hroom.2 _ rfl)⟩

/-! ## A limiter of one bucket -/

/-- What a bucket lets through at most in the interval that starts at `t`. -/
def allowance (l : RateLimiter) (b : RateBucket) (t : ℤ) : ℤ :=
  if t + l.window < b.windowAt then 0
  else if t < b.windowAt then max 0 (l.limit - b.count)
  else if t < b.windowAt + l.window then max 0 (l.limit - b.count) + l.limit
  else 2 * l.limit

lemma within_single {b : RateBucket} (hsorted : calls.Pairwise fun c d => c.2 ≤ d.2)
    (hstarted : ∀ c ∈ calls, b.windowAt ≤ c.2) (hcount : 0 ≤ b.count) :
    within t (t + l.window) (l.single (some b) calls) ≤ l.allowance b t := by
  have hlimit := l.limit_pos
  have hwindow := l.window_pos
  induction calls generalizing b with
  | nil =>
    simp only [single, within, countP_nil, allowance]
    split_ifs <;> omega
  | cons c calls ih =>
    obtain ⟨k, now⟩ := c
    obtain ⟨hlater, hsorted⟩ := pairwise_cons.mp hsorted
    have hnow := hstarted _ mem_cons_self
    rw [single, within_cons]
    by_cases hlive : now - b.windowAt < l.window
    · have htick : l.tick (some b) now = ⟨b.windowAt, b.count + 1⟩ := by
        simp [tick, Int.not_le.mpr hlive]
      have hrest := ih (b := ⟨b.windowAt, b.count + 1⟩) hsorted
        (fun c hc => hstarted c (mem_cons_of_mem _ hc)) (Int.add_nonneg hcount Int.one_nonneg)
      simp only [htick, allowance, decide_eq_true_eq] at hnow hrest ⊢
      split_ifs at hrest ⊢ <;> omega
    · have htick : l.tick (some b) now = ⟨now, 1⟩ := by
        simp [tick, Int.not_lt.mp hlive]
      have hrest := ih (b := ⟨now, 1⟩) hsorted hlater Int.one_nonneg
      simp only [htick, allowance, decide_eq_true_eq] at hnow hrest ⊢
      split_ifs at hrest ⊢ <;> omega

/-- **The bounds of the rate limiter.**  When the times of the calls do not decrease, at most twice
the limit of calls for a key are allowed in an interval of the length of a window, there are never
more keys than the maximum, and while the table is not full the answers for a key depend on the
calls for that key alone. -/
theorem rate_limiter_bounds (l : RateLimiter) (start : ℤ)
    (hsorted : calls.Pairwise fun c d => c.2 ≤ d.2) :
    (∀ key t, within t (t + l.window) (l.answers key ⟨∅, start⟩ calls) ≤ 2 * l.limit) ∧
    (∀ s, run l.step ⟨∅, start⟩ calls = some s → s.buckets.keys.length ≤ l.maxKeys) ∧
    ∀ key calls', calls'.Pairwise (fun c d => c.2 ≤ d.2) →
      calls'.filter (·.1 = key) = calls.filter (·.1 = key) →
      Meets l.step (fun s _ => s.buckets.keys.length < l.maxKeys) ⟨∅, start⟩ calls →
      Meets l.step (fun s _ => s.buckets.keys.length < l.maxKeys) ⟨∅, start⟩ calls' →
      l.answers key ⟨∅, start⟩ calls' = l.answers key ⟨∅, start⟩ calls := by
  refine ⟨fun key t => ?_, fun s => ?_, fun key calls' hsorted' hsame hroom hroom' => ?_⟩
  · obtain ⟨⟨counted, hsub, hwithin⟩, -⟩ :=
      answers_simulated (l := l) (s := ⟨∅, start⟩) (b := none) key hsorted fun _ _ => rfl
    have hcounted := (hsorted.filter _).sublist hsub
    have hlimit := l.limit_pos
    rw [hwithin]
    cases counted with
    | nil => exact Int.mul_nonneg (by decide) (Int.le_of_lt hlimit)
    | cons c counted =>
      have hfirst : ∀ d ∈ c :: counted, c.2 ≤ d.2 := by simpa using (pairwise_cons.mp hcounted).1
      refine Int.le_trans (within_single (b := ⟨c.2, 0⟩) hcounted hfirst (Int.le_refl 0)) ?_
      simp only [allowance]
      split_ifs <;> omega
  · exact run_invariant (P := fun s : RateTable => s.buckets.keys.length ≤ l.maxKeys)
      (fun _ _ _ => keys_step_le) (Int.le_of_lt l.maxKeys_pos)
  · rw [(answers_simulated key hsorted fun _ _ => rfl).2 hroom,
      (answers_simulated key hsorted' fun _ _ => rfl).2 hroom', hsame]

theorem rate_limiter_bounds_sample : (within 9 19 ((newRateLimiter 1 10 5).answers "a" ⟨∅, 0⟩
    [("a", 0), ("b", 0), ("a", 9), ("a", 10)]) : ℤ) ≤ 2 :=
  (rate_limiter_bounds (newRateLimiter 1 10 5) 0 (by decide)).1 "a" 9

end RateLimiter

end StControl.Controller
