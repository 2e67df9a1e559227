import Mathlib.Logic.Basic

/-!
# Atomic transactions

A transaction that reads a state, refuses with an error or commits a new state is a function into
`Except ε`.  A refused transaction leaves the state as it was, so a run only records the committed
ones.  The two combinators below are the ways in which such code refuses: a condition that does
not hold (`require`) and a row that is not there (`need`).  The lemmas of the first section say
what a commit implies.

`Ensures x Q` is the postcondition of a transaction: if `x` commits, the value it commits satisfies
`Q`.  Its rules walk through a transaction written in `do` notation, each check becoming an
assumption and each row that was read a variable, so that a statement about all commits is proved
without naming the branches that refuse.

`Commits x Q` is the dual: the transaction does commit, and with a value that satisfies `Q`.  Its
rules turn each check into an obligation and each read into a row to be shown.
-/

namespace Transaction

variable {ε α β : Type}
variable {b : β} {o : Option α}

/-- Continue when the condition holds, refuse with `e` otherwise. -/
def require (p : Prop) [Decidable p] (e : ε) : Except ε Unit :=
  if p then .ok () else .error e

/-- Continue with the row that was found, refuse with `e` when there is none. -/
def need (o : Option α) (e : ε) : Except ε α :=
  match o with
  | some a => .ok a
  | none => .error e

lemma bind_eq_ok {x : Except ε α} {f : α → Except ε β} :
    (x >>= f) = .ok b ↔ ∃ a, x = .ok a ∧ f a = .ok b := by
  cases x with
  | error e | ok a => simp [bind, Except.bind]

lemma pure_eq_ok {a b : α} : (pure a : Except ε α) = .ok b ↔ a = b := by
  simp [pure, Except.pure]

lemma require_eq_ok {p : Prop} [Decidable p] {e : ε} {u : Unit} : require p e = .ok u ↔ p := by
  unfold require
  split <;> simp_all

lemma need_eq_ok {e : ε} {a : α} : need o e = .ok a ↔ o = some a := by
  cases o <;> simp [need]

lemma toOption_eq_some {x : Except ε α} {a : α} : x.toOption = some a ↔ x = .ok a := by
  cases x <;> simp [Except.toOption]

lemma require_bind_eq_ok {p : Prop} [Decidable p] {e : ε} {f : Unit → Except ε β} :
    (require p e >>= f) = .ok b ↔ p ∧ f () = .ok b := by
  rw [bind_eq_ok]
  constructor
  · rintro ⟨u, hp, hf⟩
    exact ⟨require_eq_ok.mp hp, hf⟩
  · rintro ⟨hp, hf⟩
    exact ⟨(), require_eq_ok.mpr hp, hf⟩

lemma need_bind_eq_ok {e : ε} {f : α → Except ε β} :
    (need o e >>= f) = .ok b ↔ ∃ a, o = some a ∧ f a = .ok b := by
  simp [bind_eq_ok, need_eq_ok]

lemma of_require {p : Prop} [Decidable p] {e : ε} {f : Unit → Except ε β}
    (h : (require p e >>= f) = .ok b) : p ∧ f () = .ok b :=
  require_bind_eq_ok.mp h

lemma of_need {e : ε} {f : α → Except ε β} (h : (need o e >>= f) = .ok b) :
    ∃ a, o = some a ∧ f a = .ok b :=
  need_bind_eq_ok.mp h

lemma ok_require {p : Prop} [Decidable p] {e : ε} {f : Unit → Except ε β} (hp : p)
    (h : f () = .ok b) : (require p e >>= f) = .ok b :=
  require_bind_eq_ok.mpr ⟨hp, h⟩

lemma ok_need {a : α} {e : ε} {f : α → Except ε β} (ha : o = some a) (h : f a = .ok b) :
    (need o e >>= f) = .ok b :=
  need_bind_eq_ok.mpr ⟨a, ha, h⟩

lemma of_ite_error {p : Prop} [Decidable p] {e : ε} {x : Except ε α} {a : α}
    (h : (if p then x else .error e) = .ok a) : p ∧ x = .ok a := by
  split at h
  next hp => exact ⟨hp, h⟩
  · cases h

/-! ## Postconditions -/

def Ensures (x : Except ε α) (Q : α → Prop) : Prop := ∀ a, x = .ok a → Q a

variable {Q R : α → Prop} {S : β → Prop}

variable {a : α} {e : ε} {x : Except ε α} {f : α → Except ε β} {p : Prop}

@[simp] lemma ensures_ok : Ensures (.ok a : Except ε α) Q ↔ Q a := by
  simp [Ensures]

@[simp] lemma ensures_error : Ensures (.error e) Q ↔ True := by
  simp [Ensures]

@[simp] lemma ensures_pure : Ensures (pure a : Except ε α) Q ↔ Q a := ensures_ok

lemma ensures_bind : Ensures (x >>= f) S ↔ Ensures x fun a => Ensures (f a) S := by
  constructor
  · intro h a ha b hb
    exact h b (bind_eq_ok.mpr ⟨a, ha, hb⟩)
  · intro h b hb
    obtain ⟨a, ha, hf⟩ := bind_eq_ok.mp hb
    exact h a ha b hf

@[simp] lemma ensures_require_bind [Decidable p] {f : Unit → Except ε β} :
    Ensures (require p e >>= f) S ↔ (p → Ensures (f ()) S) := by
  constructor
  · intro h hp b hb
    exact h b (ok_require hp hb)
  · intro h b hb
    obtain ⟨hp, hf⟩ := of_require hb
    exact h hp b hf

@[simp] lemma ensures_need_bind :
    Ensures (need o e >>= f) S ↔ ∀ a, o = some a → Ensures (f a) S := by
  constructor
  · intro h a ha b hb
    exact h b (ok_need ha hb)
  · intro h b hb
    obtain ⟨a, ha, hf⟩ := of_need hb
    exact h a ha b hf

@[simp] lemma ensures_ite [Decidable p] {y : Except ε α} :
    Ensures (if p then x else y) Q ↔ (p → Ensures x Q) ∧ (¬ p → Ensures y Q) := by
  split <;> simp_all

@[simp] lemma ensures_map {f : α → β} : Ensures (x.map f) S ↔ Ensures x fun a => S (f a) := by
  cases x <;> simp [Except.map]

lemma ensures_steps : (∀ {p : Prop} [Decidable p] {e : ε} {f : Unit → Except ε β} {S : β → Prop},
      Ensures (require p e >>= f) S ↔ (p → Ensures (f ()) S)) ∧
    (∀ {α : Type} {o : Option α} {e : ε} {f : α → Except ε β} {S : β → Prop},
      Ensures (need o e >>= f) S ↔ ∀ a, o = some a → Ensures (f a) S) ∧
    ∀ {b : β} {S : β → Prop}, Ensures (pure b : Except ε β) S ↔ S b :=
  ⟨ensures_require_bind, ensures_need_bind, ensures_pure⟩

lemma Ensures.mono (h : Ensures x Q) (hQR : ∀ a, Q a → R a) : Ensures x R :=
  fun a ha => hQR a (h a ha)

/-! ## Transactions that go through -/

def Commits (x : Except ε α) (Q : α → Prop) : Prop := ∃ a, x = .ok a ∧ Q a

@[simp] lemma commits_ok : Commits (.ok a : Except ε α) Q ↔ Q a := by
  simp [Commits]

@[simp] lemma commits_pure : Commits (pure a : Except ε α) Q ↔ Q a := commits_ok

lemma commits_bind : Commits (x >>= f) S ↔ Commits x fun a => Commits (f a) S := by
  constructor
  · rintro ⟨b, hb, hS⟩
    obtain ⟨a, ha, hf⟩ := bind_eq_ok.mp hb
    exact ⟨a, ha, b, hf, hS⟩
  · rintro ⟨a, ha, b, hf, hS⟩
    exact ⟨b, bind_eq_ok.mpr ⟨a, ha, hf⟩, hS⟩

@[simp] lemma commits_require_bind [Decidable p] {f : Unit → Except ε β} :
    Commits (require p e >>= f) S ↔ p ∧ Commits (f ()) S := by
  constructor
  · rintro ⟨b, hb, hS⟩
    obtain ⟨hp, hf⟩ := of_require hb
    exact ⟨hp, b, hf, hS⟩
  · rintro ⟨hp, b, hf, hS⟩
    exact ⟨b, ok_require hp hf, hS⟩

@[simp] lemma commits_need_bind :
    Commits (need o e >>= f) S ↔ ∃ a, o = some a ∧ Commits (f a) S := by
  constructor
  · rintro ⟨b, hb, hS⟩
    obtain ⟨a, ha, hf⟩ := of_need hb
    exact ⟨a, ha, b, hf, hS⟩
  · rintro ⟨a, ha, b, hf, hS⟩
    exact ⟨b, ok_need ha hf, hS⟩

lemma Commits.mono (h : Commits x Q) (hQR : ∀ a, Q a → R a) : Commits x R := by
  obtain ⟨a, ha, hQ⟩ := h
  exact ⟨a, ha, hQR a hQ⟩

end Transaction
