import StControl.Agent.ReportChecks

/-!
# The login lockout

After a few failed passwords in a row a name is locked for a delay that grows with every further
failure.  `loginLockoutMiddleware` looks the lock up before a handler runs, and the handlers record
what came of the password.  They do not agree on the name: the middleware takes it from the body as
it is spelled there, and only if the body is a single JSON value, while the handlers decode the
first value, normalise the name and record under that.
-/

namespace StControl.Controller

open Agent Run Function

/-! ## The lockout -/

/-- `loginFailureState`; the zero time is `none`, and a name without a row has the zero state. -/
structure LoginFailureState where
  failures : ℕ := 0
  lockedUntil : Option ℤ := none

/-- The settings of `loginLockout`, as `newLoginLockout` makes them. -/
structure LoginLockout where
  maxFailures : ℕ
  (baseDelay maxDelay : ℤ)
  maxFailures_pos : 0 < maxFailures
  baseDelay_pos : 0 < baseDelay

variable (env : Env) (l : LoginLockout) (rows : String → LoginFailureState)

/-- The loop of `recordFailure`: the delay after so many failures beyond the threshold. -/
def LoginLockout.backoff : ℕ → ℤ
  | 0 => l.baseDelay
  | extra + 1 =>
    let delay := LoginLockout.backoff extra
    if delay < l.maxDelay then min (delay * 2) l.maxDelay else delay

def locked (key : String) (now : ℤ) : Bool :=
  key ≠ "" && (rows key).lockedUntil.any (now < ·)

/-- The row that `recordFailure` writes. -/
def LoginFailureState.failed (state : LoginFailureState) (now : ℤ) : LoginFailureState where
  failures := state.failures + 1
  lockedUntil :=
    if l.maxFailures ≤ state.failures + 1 then
      some (now + l.backoff (state.failures + 1 - l.maxFailures))
    else state.lockedUntil

def recordFailure (key : String) (now : ℤ) : String → LoginFailureState :=
  if key = "" then rows else update rows key ((rows key).failed l now)

def recordSuccess (key : String) : String → LoginFailureState :=
  if key = "" then rows else update rows key {}

/-! ## The handlers -/

inductive Credentials
  | unavailable | missing
  | found (active matching : Bool)

/-- What a handler does: nothing, record a failure without looking at the password, or compare it
and record whether it passed. -/
inductive Verdict
  | refused | unknown
  | compared (passed : Bool)

def handleLogin : Credentials → Verdict
  | .unavailable | .missing => .unknown
  | .found false _ => .refused
  | .found true matching => .compared matching

/-- `handleAdminLogin`, which compares with a dummy if there is no such administrator. -/
def handleAdminLogin : Credentials → Verdict
  | .unavailable => .refused
  | .missing => .compared false
  | .found active matching => .compared (active && matching)

structure LoginRequest where
  /-- The path ends in `/admin/login`. -/
  admin : Bool
  username : String
  /-- The body goes on after the value. -/
  trailing : Bool
  credentials : Credentials
  now : ℤ

namespace LoginRequest

variable (r : LoginRequest)

/-- `peekLoginUsername`: `json.Unmarshal` fails if the body goes on. -/
def peekLoginUsername : String := if r.trailing then "" else r.username

/-- The key of `loginLockoutMiddleware`. -/
def lockoutKey : String :=
  if r.admin then "admin:" ++ r.peekLoginUsername else r.peekLoginUsername

def accountKey : String :=
  if r.admin then
    "admin:" ++ env.toLower (String.ofList (trimRunes isSpaceRune r.username.toList))
  else normalizeHandle env r.username

def verdict : Verdict :=
  if r.admin then handleAdminLogin r.credentials else handleLogin r.credentials

end LoginRequest

structure PasswordCheck where
  account : String
  passed : Bool
  now : ℤ

structure LoginState where
  rows : String → LoginFailureState
  checks : List PasswordCheck
  clock : ℤ

def loginStep (s : LoginState) (r : LoginRequest) : Option LoginState :=
  if r.now < s.clock then none
  else if locked s.rows r.lockoutKey r.now then some { s with clock := r.now }
  else
    let account := r.accountKey env
    match r.verdict with
    | .refused => some { s with clock := r.now }
    | .unknown => some { s with clock := r.now, rows := recordFailure l s.rows account r.now }
    | .compared passed =>
      some
        { clock := r.now, checks := ⟨account, passed, r.now⟩ :: s.checks
          rows :=
            if passed then recordSuccess s.rows account
            else recordFailure l s.rows account r.now }

/-! ## The failures in a row -/

/-- How many passwords failed for an account since one that did not, and when the last one was
compared. -/
def failuresOf (account : String) : List PasswordCheck → ℕ × ℤ
  | [] => (0, 0)
  | check :: checks =>
    let before := failuresOf account checks
    if check.account ≠ account then before
    else (if check.passed then 0 else before.1 + 1, check.now)

def LoginLockout.lockedOut (checks : List PasswordCheck) (account : String) (now : ℤ) : Bool :=
  let (count, last) := failuresOf account checks
  l.maxFailures ≤ count && now < last + l.backoff (count - l.maxFailures)

structure Counted (clock : ℤ) (state : LoginFailureState) (count : ℕ) (last : ℤ) : Prop where
  failures : count ≤ state.failures
  past : 0 < count → last ≤ clock
  locks : l.maxFailures ≤ count →
    ∃ u ∈ state.lockedUntil, last + l.backoff (count - l.maxFailures) ≤ u

variable {env l rows} {s s' : LoginState} {r : LoginRequest} {account key : String} {now last : ℤ}
  {state : LoginFailureState} {count : ℕ}

lemma backoff_mono {m n : ℕ} (h : m ≤ n) : l.backoff m ≤ l.backoff n := by
  have hpos : ∀ n, 0 < l.backoff n := by
    intro n
    induction n with
    | zero => exact l.baseDelay_pos
    | succ n ih => simp only [LoginLockout.backoff]; split <;> omega
  refine monotone_nat_of_le_succ (fun n => ?_) h
  have hn := hpos n
  simp only [LoginLockout.backoff]
  split <;> omega

lemma Counted.failed (hcount : count ≤ state.failures + 1) (hpast : 0 < count → last ≤ now) :
    Counted l now (state.failed l now) count last := by
  refine ⟨hcount, hpast, fun hmax => ?_⟩
  have hlast := hpast (l.maxFailures_pos.trans_le hmax)
  have hdelay : l.backoff (count - l.maxFailures) ≤
      l.backoff (state.failures + 1 - l.maxFailures) := backoff_mono (by omega)
  exact ⟨_, if_pos (hmax.trans hcount), by omega⟩

lemma recordFailure_apply (hne : account ≠ "") : recordFailure l rows key now account =
      if account = key then (rows key).failed l now else rows account := by
  unfold recordFailure
  split
  next hkey => rw [if_neg (hkey ▸ hne)]
  next => exact update_apply ..

lemma recordSuccess_apply_of_ne (h : account ≠ key) :
    recordSuccess rows key account = rows account := by
  unfold recordSuccess
  split
  · rfl
  · exact update_of_ne h ..

def LoginState.Sound (l : LoginLockout) (s : LoginState) : Prop :=
  ∀ account, account ≠ "" → Counted l s.clock (s.rows account)
    (failuresOf account s.checks).1 (failuresOf account s.checks).2

lemma LoginState.Sound.step (h : s.Sound l) (hstep : loginStep env l s r = some s') :
    s'.Sound l := by
  intro account hne
  obtain ⟨hclock, hstep⟩ := Option.ite_none_left_eq_some.mp hstep
  have hkept : Counted l r.now (s.rows account)
      (failuresOf account s.checks).1 (failuresOf account s.checks).2 := by
    obtain ⟨hcount, hpast, hlocks⟩ := h account hne
    exact ⟨hcount, by omega, hlocks⟩
  split at hstep
  · cases hstep
    exact hkept
  cases hverdict : r.verdict with
  | refused =>
    simp only [hverdict] at hstep
    cases hstep
    exact hkept
  | unknown =>
    simp only [hverdict] at hstep
    cases hstep
    simp only [recordFailure_apply hne]
    split
    next haccount => exact .failed (Nat.le_succ_of_le (haccount ▸ hkept.failures)) hkept.past
    next => exact hkept
  | compared passed =>
    simp only [hverdict] at hstep
    cases hstep
    by_cases haccount : account = r.accountKey env
    · subst haccount
      have hmax := l.maxFailures_pos
      cases passed with
      | true => exact ⟨by simp [failuresOf], by simp [failuresOf], by simp [failuresOf]; omega⟩
      | false =>
        simpa [failuresOf, recordFailure_apply hne] using
          .failed (Nat.succ_le_succ hkept.failures) fun _ => le_refl r.now
    · have hother := Ne.symm haccount
      cases passed with
      | true => simpa [failuresOf, hother, recordSuccess_apply_of_ne haccount] using hkept
      | false => simpa [failuresOf, hother, recordFailure_apply hne, haccount] using hkept

/-- **The login lockout.**  Whatever was requested before, while an account is locked out no request
is compared with its password that has the key of the handlers in the middleware, too. -/
theorem login_lockout_holds {clock : ℤ} {acts : List LoginRequest}
    (hrun : run (loginStep env l) ⟨fun _ => {}, [], clock⟩ acts = some s)
    (hlocked : l.lockedOut s.checks (r.accountKey env) r.now) (haccount : r.accountKey env ≠ "")
    (hkey : r.lockoutKey = r.accountKey env) (hstep : loginStep env l s r = some s') :
    s'.checks = s.checks := by
  have hsound : s.Sound l := by
    refine run_invariant (fun _ _ _ h hstep => h.step hstep) (fun account _ => ?_) hrun
    have hmax := l.maxFailures_pos
    exact ⟨Nat.zero_le _, nofun, by simp only [failuresOf]; omega⟩
  simp only [LoginLockout.lockedOut, Bool.and_eq_true,
    decide_eq_true_eq] at hlocked
  obtain ⟨u, hu, hle⟩ := (hsound _ haccount).locks hlocked.1
  have hrefused : locked s.rows (r.accountKey env) r.now := by
    rw [Option.mem_def] at hu
    simpa [locked, haccount, hu] using hlocked.2.trans_le hle
  obtain ⟨-, hstep⟩ := Option.ite_none_left_eq_some.mp hstep
  rw [hkey, if_pos hrefused] at hstep
  cases hstep
  rfl

def asciiEnv : Env := ⟨id, fun text => String.ofList (text.toList.map Char.toLower)⟩

def sampleLockout : LoginLockout := ⟨5, 30, 900, by decide, by decide⟩

def wrongPassword (username : String) (now : ℤ) : LoginRequest :=
  ⟨false, username, false, .found true false, now⟩

def afterFailures : Option LoginState :=
  run (loginStep asciiEnv sampleLockout) ⟨fun _ => {}, [], 0⟩
    (List.replicate 5 (wrongPassword "alice" 10))

theorem login_lockout_holds_alice : ∃ s s', afterFailures = some s ∧
    loginStep asciiEnv sampleLockout s (wrongPassword "alice" 20) = some s' ∧
    s'.checks = s.checks := by
  obtain ⟨s, hrun, s', hstep, hlocked⟩ : ∃ s ∈ afterFailures,
      ∃ s' ∈ loginStep asciiEnv sampleLockout s (wrongPassword "alice" 20),
        sampleLockout.lockedOut s.checks ((wrongPassword "alice" 20).accountKey asciiEnv) 20 := by
    decide +kernel
  exact ⟨s, s', hrun, hstep, login_lockout_holds hrun hlocked (by decide +kernel)
    (by decide +kernel) hstep⟩

/-- **The lock of `alice` does not hold for `Alice`.** -/
theorem capitals_pass_lockout : ∃ s s', afterFailures = some s ∧
    loginStep asciiEnv sampleLockout s (wrongPassword "Alice" 20) = some s' ∧
    sampleLockout.lockedOut s.checks ((wrongPassword "Alice" 20).accountKey asciiEnv) 20 ∧
    s'.checks.length = s.checks.length + 1 :=
  exists_states (by decide +kernel)

end StControl.Controller
