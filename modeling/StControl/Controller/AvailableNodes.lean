import Mathlib.Data.List.Sort
import Mathlib.Data.Prod.Lex
import StControl.Store.Schema

/-!
# The nodes offered to a new user

`handleAvailableNodes` sorts the nodes by a rank, and then once more with the order that an accepted
advisory of the AI has left behind.  The rank is one number: `availableNodeRank_le` says that it
compares the registrable nodes by capacity, weight and latency, in this order.  The nodes at which
nobody can register share one rank, so among them the hint may put any order
(`unregistrable_nodes_unsorted`).  `available_nodes_sorted` says that this is all it can do.
-/

namespace StControl.Controller

open Store

structure AvailableNode where
  id : ℤ
  registrable : Bool
  capacityState : CapacityState
  recommendationWeight : Fin 101
  clientLatencyMS : ℤ
  deriving DecidableEq

def latencyTier (ms : ℤ) : ℤ :=
  if ms ≤ 0 then 0 else if ms < 100 then 1 else if ms < 300 then 2 else if ms < 800 then 3 else 4

def AvailableNode.capacityRank (n : AvailableNode) : ℤ :=
  if n.capacityState ≠ .opened then 10000 else 0

def availableNodeRank (n : AvailableNode) : ℤ :=
  if !n.registrable then 1000000
  else n.capacityRank - n.recommendationWeight * 10 + latencyTier n.clientLatencyMS

def hintPosition (order : List ℤ) (n : AvailableNode) : ℕ :=
  ((order.zipIdx.filter fun e => e.1 = n.id).getLast?.map (·.2)).getD order.length

/-- `sort.SliceStable` with a comparison of keys. -/
def sliceStable {α κ : Type} [LinearOrder κ] (key : α → κ) (out : List α) : List α :=
  out.insertionSort fun a b => key a ≤ key b

/-- `handleAvailableNodes`, on the nodes of the store: the list. -/
def handleAvailableNodes (nodes : List AvailableNode) (order : List ℤ) : List AvailableNode :=
  let out := sliceStable availableNodeRank nodes
  if 1 < order.length then
    sliceStable (fun n => toLex (availableNodeRank n, hintPosition order n)) out
  else out

def recommendedNode (out : List AvailableNode) : Option AvailableNode := out.find? (·.registrable)

def AvailableNode.tiers (n : AvailableNode) : Bool ×ₗ ℤ ×ₗ ℤ ×ₗ ℤ :=
  toLex (!n.registrable, toLex (n.capacityRank, toLex
    (-(n.recommendationWeight : ℤ), latencyTier n.clientLatencyMS)))

def AvailableNode.key (n : AvailableNode) : Bool ×ₗ ℤ ×ₗ ℤ ×ₗ ℤ :=
  if n.registrable then n.tiers else toLex (true, toLex (0, toLex (0, 0)))

open AvailableNode

lemma latencyTier_bounds (ms : ℤ) : 0 ≤ latencyTier ms ∧ latencyTier ms ≤ 4 := by
  unfold latencyTier
  split_ifs <;> omega

lemma availableNodeRank_le {a b : AvailableNode} :
    availableNodeRank a ≤ availableNodeRank b ↔ a.key ≤ b.key := by
  have htier := latencyTier_bounds a.clientLatencyMS
  have htier' := latencyTier_bounds b.clientLatencyMS
  unfold availableNodeRank key tiers capacityRank
  cases a.registrable <;> cases b.registrable <;> simp [Prod.Lex.toLex_le_toLex, Bool.lt_iff]
  all_goals split_ifs <;> omega

lemma sliceStable_spec {α κ : Type} [LinearOrder κ] (key : α → κ) (out : List α) :
    (sliceStable key out).Perm out ∧ (sliceStable key out).Pairwise fun a b => key a ≤ key b := by
  have : Std.Total fun a b : α => key a ≤ key b := ⟨fun a b => le_total (key a) (key b)⟩
  have : IsTrans α fun a b => key a ≤ key b := ⟨fun _ _ _ => le_trans⟩
  exact ⟨List.perm_insertionSort _ out, List.pairwise_insertionSort _ out⟩

lemma handleAvailableNodes_spec (nodes : List AvailableNode) (order : List ℤ) :
    (handleAvailableNodes nodes order).Perm nodes ∧
      (handleAvailableNodes nodes order).Pairwise fun a b => a.key ≤ b.key := by
  obtain ⟨hperm, hsorted⟩ := sliceStable_spec availableNodeRank nodes
  dsimp only [handleAvailableNodes]
  split
  · obtain ⟨hperm', hsorted'⟩ := sliceStable_spec (fun n =>
      toLex (availableNodeRank n, hintPosition order n)) (sliceStable availableNodeRank nodes)
    refine ⟨hperm'.trans hperm, hsorted'.imp fun h => availableNodeRank_le.mp ?_⟩
    rcases Prod.Lex.toLex_le_toLex.mp h with hlt | heq
    · exact hlt.le
    · exact heq.1.le
  · exact ⟨hperm, hsorted.imp fun h => availableNodeRank_le.mp h⟩

lemma recommendedNode_spec {out : List AvailableNode} {n : AvailableNode}
    (hsorted : out.Pairwise fun a b => a.key ≤ b.key) (hn : n ∈ out)
    (hregistrable : n.registrable) :
    ∃ r, recommendedNode out = some r ∧ r.registrable ∧ ∀ m ∈ out, r.key ≤ m.key := by
  obtain ⟨r, hr⟩ := Option.isSome_iff_exists.mp (List.find?_isSome.mpr ⟨n, hn, hregistrable⟩)
  obtain ⟨hfirst, before, after, rfl, hbefore⟩ := List.find?_eq_some_iff_append.mp hr
  refine ⟨r, hr, hfirst, fun m hm => ?_⟩
  obtain hm | rfl | hm := by simpa using hm
  · have hnot := hbefore m hm
    simp_all [key, tiers, Prod.Lex.toLex_le_toLex]
  · exact le_rfl
  · exact (List.pairwise_cons.mp (List.pairwise_append.mp hsorted).2.1).1 m hm

/-- **The hint stays inside a tier.**  The list has the nodes, sorted by registrable, capacity,
weight and latency, with one tier for the nodes at which nobody can register; position by position
the tiers are those of the list without a hint; and where a node is registrable, a registrable node
of the first tier is recommended. -/
theorem available_nodes_sorted (nodes : List AvailableNode) (order : List ℤ) :
    let out := handleAvailableNodes nodes order
    out.Perm nodes ∧ out.Pairwise (fun a b => a.key ≤ b.key) ∧
      out.map key = (handleAvailableNodes nodes []).map key ∧ ((∃ n ∈ nodes, n.registrable) →
        ∃ r ∈ nodes, recommendedNode out = some r ∧ r.registrable ∧
          ∀ m ∈ nodes, r.key ≤ m.key) := by
  obtain ⟨hperm, hsorted⟩ := handleAvailableNodes_spec nodes order
  obtain ⟨hperm', hsorted'⟩ := handleAvailableNodes_spec nodes []
  refine ⟨hperm, hsorted, ?_, ?_⟩
  · exact ((hperm.trans hperm'.symm).map key).eq_of_pairwise' (List.pairwise_map.mpr hsorted)
      (List.pairwise_map.mpr hsorted')
  · rintro ⟨n, hn, hregistrable⟩
    obtain ⟨r, hr, hfirst, hleast⟩ :=
      recommendedNode_spec hsorted (hperm.mem_iff.mpr hn) hregistrable
    exact ⟨r, hperm.mem_iff.mp (List.mem_of_find?_eq_some hr), hr, hfirst,
      fun m hm => hleast m (hperm.mem_iff.mpr hm)⟩

/-- **The last tier has no order of its own.**  A node at which nobody can register may come before
one with more weight. -/
theorem unregistrable_nodes_unsorted :
    ¬ ∀ nodes order, (handleAvailableNodes nodes order).Pairwise fun a b => a.tiers ≤ b.tiers := by
  intro h
  have hsorted := h [⟨1, false, .full, 0, 0⟩, ⟨2, false, .full, 50, 0⟩] []
  exact absurd hsorted (by decide)

end StControl.Controller
