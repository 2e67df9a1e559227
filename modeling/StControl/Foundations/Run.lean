import Mathlib.Data.List.Basic

/-!
# Runs of a partial step function

A transition system is given by `step : σ → α → Option σ`: `step s a = some s'` says that the
action `a` is enabled in `s` and leads to `s'`.  `Run.run step s acts` performs a whole list of
actions.  The rules below package the inductions over runs once:

* `run_invariant`: a property kept by every step holds after every run;
* `run_history`: the same for a property of the state and the actions that led to it;
* `run_rel`: a reflexive and transitive relation that every step satisfies relates the two ends
  of every run;
* `run_invariant_of_meets`: the first rule when every step of the run meets a side condition on
  the state before it and the action taken (`Meets`);
* `run_back_of_meets`: a property that every step hands back from the state after it to the state
  before it holds at the start of a run if it holds at the end;
* `run_crossing`: a property that holds at the end of a run and not at its start became true at
  some step;
* `of_explores`: what an exhaustive search of the states finds in all of them holds after every run.
-/

namespace Run

open Option List

variable {σ α : Type*} {step : σ → α → Option σ}
variable {acts₁ acts₂ : List α} {Q : σ → Prop}

/-- Perform the actions one after the other; `none` as soon as one of them is not enabled. -/
def run (step : σ → α → Option σ) : σ → List α → Option σ
  | s, [] => some s
  | s, a :: acts => (step s a).bind fun s' => run step s' acts

@[simp] lemma run_nil (s : σ) : run step s [] = some s := rfl

lemma run_cons (s : σ) (a : α) (acts : List α) :
    run step s (a :: acts) = (step s a).bind fun s' => run step s' acts := rfl

variable {s s' : σ} {acts : List α} {P : σ → Prop} {G : σ → α → Prop}

lemma run_cons_eq_some {a : α} :
    run step s (a :: acts) = some s' ↔ ∃ t, step s a = some t ∧ run step t acts = some s' := by
  rw [run_cons, bind_eq_some_iff]

lemma run_append_eq_some : run step s (acts₁ ++ acts₂) = some s' ↔
      ∃ t, run step s acts₁ = some t ∧ run step t acts₂ = some s' := by
  induction acts₁ generalizing s with
  | nil => simp
  | cons a acts₁ ih =>
    simp only [cons_append, run_cons_eq_some, ih]
    constructor
    · rintro ⟨t, ht, u, hu, hs'⟩
      exact ⟨u, ⟨t, ht, hu⟩, hs'⟩
    · rintro ⟨u, ⟨t, ht, hu⟩, hs'⟩
      exact ⟨t, ht, u, hu, hs'⟩

lemma run_map {β : Type*} {step' : σ → β → Option σ} {f : α → β}
    (hstep : ∀ s a, step' s (f a) = step s a) (s : σ) (acts : List α) :
    run step' s (acts.map f) = run step s acts := by
  induction acts generalizing s with
  | nil => rfl
  | cons a acts ih =>
    rw [map_cons, run_cons, run_cons, hstep]
    exact bind_congr fun s' _ => ih s'

lemma of_guarded {p : Prop} [Decidable p] {s s' : σ} (h : (if p then some s else none) = some s') :
    p ∧ s = s' := by
  obtain ⟨hp, hs⟩ := ite_none_right_eq_some.mp h
  exact ⟨hp, some.inj hs⟩

lemma of_bind_guarded {o : Option α} {p : α → Prop} [DecidablePred p] {f : α → Option σ} {s : σ}
    (h : (o.bind fun a => if p a then f a else none) = some s) :
    ∃ a, o = some a ∧ p a ∧ f a = some s := by
  obtain ⟨a, ha, h⟩ := bind_eq_some_iff.mp h
  exact ⟨a, ha, ite_none_right_eq_some.mp h⟩

lemma run_invariant (hstep : ∀ s a s', P s → step s a = some s' → P s')
    (hs : P s) (hrun : run step s acts = some s') : P s' := by
  induction acts generalizing s with
  | nil => exact (some.inj hrun) ▸ hs
  | cons a acts ih =>
    obtain ⟨t, ht, hrest⟩ := run_cons_eq_some.mp hrun
    exact ih (hstep s a t hs ht) hrest

lemma run_history {P : List α → σ → Prop}
    (hstep : ∀ acts s a s', P acts s → step s a = some s' → P (acts ++ [a]) s') (hs : P [] s)
    (hrun : run step s acts = some s') : P acts s' := by
  suffices h : ∀ before, P before s → P (before ++ acts) s' from h [] hs
  clear hs
  induction acts generalizing s with
  | nil =>
    intro before hbefore
    rwa [append_nil, ← some.inj hrun]
  | cons a acts ih =>
    obtain ⟨t, ht, hrest⟩ := run_cons_eq_some.mp hrun
    intro before hbefore
    rw [append_cons]
    exact ih hrest (before ++ [a]) (hstep before s a t hbefore ht)

lemma run_rel {R : σ → σ → Prop} (hrefl : ∀ s, R s s) (htrans : ∀ s t u, R s t → R t u → R s u)
    (hstep : ∀ s a s', step s a = some s' → R s s') (hrun : run step s acts = some s') : R s s' :=
  run_invariant (P := R s) (fun t a u hst htu => htrans s t u hst (hstep t a u htu))
    (hrefl s) hrun

/-- Every step of the run from `s` over `acts` meets `G`, a condition on the state before the
step and the action taken. -/
def Meets (step : σ → α → Option σ) (G : σ → α → Prop) : σ → List α → Prop
  | _, [] => True
  | s, a :: acts => G s a ∧ ∀ t, step s a = some t → Meets step G t acts

/-- A decidable condition can be checked along a run. -/
instance decidableMeets (G : σ → α → Prop) [∀ s a, Decidable (G s a)] :
    ∀ (s : σ) (acts : List α), Decidable (Meets step G s acts)
  | _, [] => .isTrue trivial
  | s, a :: acts =>
    have : Decidable (∀ t, step s a = some t → Meets step G t acts) :=
      match step s a with
      | none => .isTrue nofun
      | some t =>
        have := decidableMeets G t acts
        decidable_of_iff (Meets step G t acts)
          ⟨fun h _ hu => some.inj hu ▸ h, fun h => h t rfl⟩
    inferInstanceAs (Decidable (G s a ∧ ∀ t, step s a = some t → Meets step G t acts))

lemma run_invariant_of_meets (hstep : ∀ s a s', P s → G s a → step s a = some s' → P s') (hs : P s)
    (hmeets : Meets step G s acts) (hrun : run step s acts = some s') : P s' := by
  induction acts generalizing s with
  | nil => exact (some.inj hrun) ▸ hs
  | cons a acts ih =>
    obtain ⟨t, ht, hrest⟩ := run_cons_eq_some.mp hrun
    exact ih (hstep s a t hs hmeets.1 ht) (hmeets.2 t ht) hrest

lemma meets_append : Meets step G s (acts₁ ++ acts₂) ↔
      Meets step G s acts₁ ∧ ∀ t, run step s acts₁ = some t → Meets step G t acts₂ := by
  induction acts₁ generalizing s with
  | nil => simp [Meets]
  | cons a acts₁ ih =>
    simp only [cons_append, Meets, run_cons_eq_some, ih]
    constructor
    · rintro ⟨ha, hrest⟩
      exact ⟨⟨ha, fun t ht => (hrest t ht).1⟩, fun u ⟨t, ht, hu⟩ => (hrest t ht).2 u hu⟩
    · rintro ⟨⟨ha, hfirst⟩, hrest⟩
      exact ⟨ha, fun t ht => ⟨hfirst t ht, fun u hu => hrest u ⟨t, ht, hu⟩⟩⟩

lemma meets_iff : Meets step G s acts ↔
      ∀ acts₁ a acts₂ t, acts = acts₁ ++ a :: acts₂ → run step s acts₁ = some t → G t a := by
  constructor
  · rintro hmeets acts₁ a acts₂ t rfl ht
    exact ((meets_append.mp hmeets).2 t ht).1
  · intro h
    induction acts generalizing s with
    | nil => trivial
    | cons a acts ih =>
      refine ⟨h [] a acts s rfl rfl, fun t ht => ih fun acts₁ b acts₂ u hsplit hu => ?_⟩
      subst hsplit
      exact h (a :: acts₁) b acts₂ u rfl (run_cons_eq_some.mpr ⟨t, ht, hu⟩)

lemma meets_of_forall {p : α → Prop} (h : ∀ a ∈ acts, p a) (s : σ) :
    Meets step (fun _ => p) s acts :=
  meets_iff.mpr fun _ a _ _ hsplit _ => h a (by simp [hsplit])

lemma run_back_of_meets (hstep : ∀ s a s', P s → G s a → step s a = some s' → P s')
    (hback : ∀ s a s', P s → G s a → step s a = some s' → Q s' → Q s) (hs : P s)
    (hmeets : Meets step G s acts) (hrun : run step s acts = some s') (hs' : Q s') : Q s := by
  induction acts generalizing s with
  | nil => exact (some.inj hrun) ▸ hs'
  | cons a acts ih =>
    obtain ⟨t, ht, hrest⟩ := run_cons_eq_some.mp hrun
    exact hback s a t hs hmeets.1 ht (ih (hstep s a t hs hmeets.1 ht) (hmeets.2 t ht) hrest)

lemma run_crossing (hrun : run step s acts = some s') (hs : ¬ Q s) (hs' : Q s') :
    ∃ acts₁ a acts₂ t t', acts = acts₁ ++ a :: acts₂ ∧ run step s acts₁ = some t ∧
      step t a = some t' ∧ run step t' acts₂ = some s' ∧ ¬ Q t ∧ Q t' := by
  induction acts generalizing s with
  | nil => exact absurd ((some.inj hrun) ▸ hs') hs
  | cons a acts ih =>
    obtain ⟨u, hu, hrest⟩ := run_cons_eq_some.mp hrun
    by_cases hQ : Q u
    · exact ⟨[], a, acts, s, u, rfl, rfl, hu, hrest, hs, hQ⟩
    · obtain ⟨acts₁, b, acts₂, t, t', rfl, ht, hb, hafter, hbefore, hcross⟩ := ih hrest hQ
      exact ⟨a :: acts₁, b, acts₂, t, t', rfl, run_cons_eq_some.mpr ⟨u, hu, ht⟩, hb, hafter,
        hbefore, hcross⟩

lemma exists_states {τ : Type*} {x : Option σ} {f : σ → Option τ} {R : σ → τ → Prop}
    (h : ∃ s ∈ x, ∃ t ∈ f s, R s t) : ∃ s t, x = some s ∧ f s = some t ∧ R s t := by
  obtain ⟨s, hs, t, ht, hR⟩ := h
  exact ⟨s, t, hs, ht, hR⟩

/-- A machine with finitely many steps in a row is explored level by level: `good` holds in all
states of every level, and after `fuel` levels none is left. -/
def explores [DecidableEq σ] (next : σ → List σ) (good : σ → Bool) : ℕ → List σ → Bool
  | 0, states => states.isEmpty
  | fuel + 1, states => states.all good && explores next good fuel ((states.flatMap next).eraseDups)

lemma of_explores [DecidableEq σ] {next : σ → List σ} {good : σ → Bool}
    (hnext : ∀ s a s', G s a → step s a = some s' → s' ∈ next s) {fuel : ℕ} {states : List σ}
    (hexplores : explores next good fuel states) (hs : s ∈ states)
    (hmeets : Meets step G s acts) (hrun : run step s acts = some s') : good s' := by
  induction acts generalizing s fuel states with
  | nil =>
    obtain rfl := some.inj hrun
    cases fuel with
    | zero => simp [isEmpty_iff.mp hexplores] at hs
    | succ fuel => exact all_eq_true.mp (Bool.and_eq_true_iff.mp hexplores).1 s hs
  | cons a acts ih =>
    obtain ⟨t, ht, hrest⟩ := run_cons_eq_some.mp hrun
    cases fuel with
    | zero => simp [isEmpty_iff.mp hexplores] at hs
    | succ fuel =>
      refine ih (Bool.and_eq_true_iff.mp hexplores).2 ?_ (hmeets.2 t ht) hrest
      rw [mem_eraseDups]
      exact mem_flatMap.mpr ⟨s, hs, hnext s a t hmeets.1 ht⟩

end Run
