import Mathlib.Data.Finset.Card

/-!
# Majority quorums

A voting body is a finite set `V`; a *quorum* of it is a subset holding at least
`majority V.card = V.card / 2 + 1` members.  Two quorums of one body always share a member
(`IsQuorum.exists_common`).  That is the only arithmetic fact a majority protocol needs: the
shared member is then asked about its own history.
-/

namespace Quorum

variable {α : Type*} [DecidableEq α]

/-- The number of votes that makes a majority of `n` voters. -/
def majority (n : ℕ) : ℕ := n / 2 + 1

/-- `A` is a majority of the voting body `V`. -/
structure IsQuorum (V A : Finset α) : Prop where
  subset : A ⊆ V
  card_le : majority V.card ≤ A.card

lemma IsQuorum.exists_common {V A B : Finset α} (hA : IsQuorum V A) (hB : IsQuorum V B) :
    ∃ x, x ∈ A ∧ x ∈ B := by
  have hcard : V.card < A.card + B.card := by
    have h₁ := hA.card_le
    have h₂ := hB.card_le
    unfold majority at h₁ h₂
    omega
  obtain ⟨x, hx⟩ := Finset.inter_nonempty_of_card_lt_card_add_card hA.subset hB.subset hcard
  exact ⟨x, Finset.mem_inter.mp hx⟩

end Quorum
