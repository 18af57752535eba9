/-
# The weighted draw of one node

A draw takes a weight below the total bandwidth and passes the nodes one by one, taking the
bandwidth of each off the weight until a node covers what is left. Where the bandwidths add
up within 64 bits, the weight before each node is the draw less what the nodes before it
have. So the node that is found is the one whose interval the draw lies in. The search never
runs past the last node, and no subtraction goes below zero.
-/

import NoPanic.Discovery.Availability

namespace NoPanic

open NoPanic.Math

universe u

namespace NodeRegistry

/-- The same search in a build that checks its arithmetic. A subtraction below zero ends it
without a result. -/
def weightedIndexChecked :
    (nodes : List NodeDescriptor) → UInt64 → Option (Option (Fin nodes.length))
  | [], _ => some none
  | node :: nodes, randomWeight =>
      if randomWeight < node.bandwidth then some (some (0 : Fin (nodes.length + 1)))
      else if node.bandwidth ≤ randomWeight then
        (weightedIndexChecked nodes (randomWeight - node.bandwidth)).map (Option.map Fin.succ)
      else none

/-- The draws that a node covers: those from the bandwidths before it up to the bandwidths
with it. -/
def Covers (nodes : List NodeDescriptor) (idx : Fin nodes.length) (randomWeight : Nat) : Prop :=
  weightBefore tickets nodes idx ≤ randomWeight ∧
    randomWeight < weightBefore tickets nodes (idx + 1)

/-- No subtraction goes below zero: it is made where the weight is not below the bandwidth. -/
theorem weightedIndexChecked_eq (nodes : List NodeDescriptor) (randomWeight : UInt64) :
    weightedIndexChecked nodes randomWeight = some (weightedIndex nodes randomWeight) := by
  induction nodes generalizing randomWeight with
  | nil => rfl
  | cons node nodes ih =>
      rw [weightedIndexChecked, weightedIndex]
      split
      · rfl
      · next hpast => rw [if_pos (UInt64.not_lt.mp hpast), ih, Option.map_some]

section

variable {nodes : List NodeDescriptor}

/-- A draw below the total finds the node that covers it. -/
theorem weightedIndex_eq_some_iff (hfits : SumFits nodes) {randomWeight : Nat}
    (hlt : randomWeight < (nodes.map tickets).sum) {idx : Fin nodes.length} :
    weightedIndex nodes (UInt64.ofNat randomWeight) = some idx ↔ Covers nodes idx randomWeight := by
  have hnat := UInt64.toNat_ofNat_of_lt' (lt_trans hlt hfits)
  rw [weightedIndex_eq, hnat, selectTicket_eq_some_iff, Covers]

/-- Exactly one node covers a draw. -/
theorem existsUnique_covers {randomWeight : Nat} (hlt : randomWeight < (nodes.map tickets).sum) :
    ∃! idx : Fin nodes.length, Covers nodes idx randomWeight := by
  obtain ⟨idx, hidx⟩ := Option.isSome_iff_exists.mp (selectTicket_isSome tickets hlt)
  refine ⟨idx, (selectTicket_eq_some_iff tickets).mp hidx, ?_⟩
  intro other hother
  have hsame := (selectTicket_eq_some_iff tickets).mpr hother
  exact Option.some.inj (hsame.symm.trans hidx)

/-- The node that covers the draw is the one that is returned. -/
theorem selectWeightedIndex_of_covers {R : Type u} [Rng R] (hfits : SumFits nodes)
    (hbound : 0 < (totalBandwidth nodes).toNat) {rng : R} {idx : Fin nodes.length}
    (hcovers : Covers nodes idx (Rng.randomRange rng (totalBandwidth nodes).toNat hbound).1) :
    selectWeightedIndex nodes rng =
      .ok (idx, (Rng.randomRange rng (totalBandwidth nodes).toNat hbound).2) := by
  have hlen : nodes.length ≠ 0 := (Nat.zero_lt_of_lt idx.isLt).ne'
  have hlt := (Rng.randomRange rng (totalBandwidth nodes).toNat hbound).1.isLt
  have hfound := (weightedIndex_eq_some_iff hfits
    (hlt.trans_eq (toNat_totalBandwidth hfits))).mpr hcovers
  rw [selectWeightedIndex, dif_neg hlen]
  simp only [dif_neg hbound.ne', hfound]

/-- For a list of nodes whose bandwidths add up to a positive total within 64 bits: exactly one
node covers each draw below the total, the search finds it with every subtraction checked and
does not run past the last node, so it is the node that is returned. A node is found by as many
of the draws as it has bandwidth, and a node without bandwidth is never returned. -/
theorem selectWeightedIndex_exact {R : Type u} [Rng R] (hfits : SumFits nodes)
    (hpos : 0 < (nodes.map tickets).sum) :
    (∀ randomWeight < (nodes.map tickets).sum,
      ∃! idx : Fin nodes.length, Covers nodes idx randomWeight ∧
        weightedIndexChecked nodes (UInt64.ofNat randomWeight) = some (some idx)) ∧
      (∀ rng : R, ∃ hbound : 0 < (totalBandwidth nodes).toNat,
        let draw := Rng.randomRange rng (totalBandwidth nodes).toNat hbound
        ∃! idx : Fin nodes.length, Covers nodes idx draw.1 ∧
          selectWeightedIndex nodes rng = .ok (idx, draw.2)) ∧
      (∀ idx : Fin nodes.length,
        ((Finset.range (nodes.map tickets).sum).filter fun randomWeight =>
          weightedIndex nodes (UInt64.ofNat randomWeight) = some idx).card =
            (nodes.get idx).bandwidth.toNat) ∧
      ∀ (rng rng' : R) (idx : Fin nodes.length),
        selectWeightedIndex nodes rng = .ok (idx, rng') → (nodes.get idx).bandwidth ≠ 0 := by
  have htotal := toNat_totalBandwidth hfits
  have hbound : 0 < (totalBandwidth nodes).toNat := hpos.trans_eq htotal.symm
  refine ⟨?_, ?_, ?_, ?_⟩
  · intro randomWeight hlt
    obtain ⟨idx, hcovers, hunique⟩ := existsUnique_covers hlt
    have hfound := (weightedIndex_eq_some_iff hfits hlt).mpr hcovers
    refine ⟨idx, ⟨hcovers, by rw [weightedIndexChecked_eq, hfound]⟩, ?_⟩
    intro other hother
    exact hunique other hother.1
  · intro rng
    have hlt := (Rng.randomRange rng (totalBandwidth nodes).toNat hbound).1.isLt
    obtain ⟨idx, hcovers, hunique⟩ := existsUnique_covers (hlt.trans_eq htotal)
    refine ⟨hbound, idx, ⟨hcovers, selectWeightedIndex_of_covers hfits hbound hcovers⟩, ?_⟩
    intro other hother
    exact hunique other hother.1
  · intro idx
    rw [show (nodes.get idx).bandwidth.toNat = tickets (nodes.get idx) from rfl,
      ← card_selectTicket tickets nodes idx]
    congr 1
    apply Finset.filter_congr
    intro randomWeight hmem
    rw [weightedIndex_eq, UInt64.toNat_ofNat_of_lt' (lt_trans (Finset.mem_range.mp hmem) hfits)]
  · intro rng rng' idx hselected hzero
    have hdrawable := (drawable_of_selectWeightedIndex hfits hselected).2
    rcases hdrawable with hbandwidth | hall
    · rw [hzero] at hbandwidth
      exact absurd hbandwidth (UInt64.lt_irrefl 0)
    · have hnone : (nodes.map tickets).sum = 0 := by
        rw [List.sum_eq_zero_iff_forall_eq_nat]
        intro weight hweight
        obtain ⟨n, hn, rfl⟩ := List.mem_map.mp hweight
        rw [tickets, hall n hn]
        rfl
      omega

/-- Two nodes without bandwidth around one of bandwidth 2. -/
def oneWithBandwidth : List NodeDescriptor :=
  [{ publicNode "a" .exit 1 with bandwidth := 0 }, { publicNode "b" .exit 2 with bandwidth := 2 },
    { publicNode "c" .exit 3 with bandwidth := 0 }]

/-- Both draws below the total return the node in the middle. -/
theorem selectWeightedIndex_exact_oneWithBandwidth :
    ((Finset.range 2).filter fun randomWeight =>
      weightedIndex oneWithBandwidth (UInt64.ofNat randomWeight) =
        some ⟨1, by decide⟩).card = 2 := by
  have hfits : SumFits oneWithBandwidth := by decide
  have hsum : (oneWithBandwidth.map tickets).sum = 2 := by decide
  have hexact := selectWeightedIndex_exact (R := Draws) hfits (by rw [hsum]; decide)
  rw [hsum] at hexact
  exact hexact.2.2.1 ⟨1, by decide⟩

end

end NodeRegistry

end NoPanic
