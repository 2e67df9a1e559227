import Mathlib.Data.Nat.Basic

/-!
# Versioned registers

A register that holds a value under a version and takes a new one exactly if its version is larger
(`offer`).  It acknowledges what it takes and what it holds already (`acknowledges`); everything
else it refuses.

A sender learns about the register through acknowledgements only, which may arrive when later offers
have been taken.  `Supersedes held new` is what an acknowledgement of `new` means for what the
register holds from then on, however many offers follow (`Supersedes.offer`): it holds `new`, or
something of a larger version.
-/

structure Versioned (α : Type) where
  version : ℕ
  value : α
  deriving DecidableEq

namespace Versioned

variable {α : Type} {held new other : Versioned α}

def offer (held new : Versioned α) : Versioned α :=
  if held.version < new.version then new else held

def acknowledges [DecidableEq α] (held new : Versioned α) : Bool :=
  held.version < new.version || held = new

/-- The register holds `new` or something of a larger version. -/
def Supersedes (held new : Versioned α) : Prop := new.version < held.version ∨ held = new

lemma offer_of_lt (h : held.version < new.version) : held.offer new = new := if_pos h

lemma offer_of_le (h : new.version ≤ held.version) : held.offer new = held :=
  if_neg (Nat.not_lt.mpr h)

lemma offer_version_le {bound : ℕ} (hheld : held.version ≤ bound) (hnew : new.version ≤ bound) :
    (held.offer new).version ≤ bound := by
  unfold offer
  split
  · exact hnew
  · exact hheld

lemma offer_of_acknowledges [DecidableEq α] (h : held.acknowledges new) : held.offer new = new := by
  simp only [acknowledges, Bool.or_eq_true, decide_eq_true_eq] at h
  rcases h with hlt | rfl
  · exact offer_of_lt hlt
  · exact offer_of_le (Nat.le_refl _)

lemma supersedes_offer [DecidableEq α] (h : held.acknowledges new) :
    (held.offer new).Supersedes new :=
  .inr (offer_of_acknowledges h)

lemma Supersedes.offer (h : held.Supersedes new) (other : Versioned α) :
    (held.offer other).Supersedes new := by
  by_cases hlt : held.version < other.version
  · rw [offer_of_lt hlt]
    rcases h with h | rfl
    · exact .inl (Nat.lt_trans h hlt)
    · exact .inl hlt
  · rwa [offer_of_le (Nat.not_lt.mp hlt)]

lemma Supersedes.eq_of_le (h : held.Supersedes new) (hle : held.version ≤ new.version) :
    held = new := by
  rcases h with h | h
  · omega
  · exact h

end Versioned
