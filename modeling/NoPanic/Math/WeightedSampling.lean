/-
# Weighted sampling without replacement

A generator is asked for a number below a bound, and gives one together with its next state.
Its state is a source for some draws when the number is uniform below every bound within a
limit, and the next state is, whatever the number was, a source for one draw less.

Picks are drawn one after the other, each from the candidates that the picks before it leave.
A candidate's share is its weight among all that they weigh, and the picks come out in some
order with the product of their shares. A product that is not zero needs a candidate for each
of the picks.
-/

import Mathlib.Data.Int.CardIntervalMod
import Mathlib.Probability.Distributions.Uniform
import NoPanic.Math.Tickets

namespace NoPanic.Math

open scoped ENNReal

universe u v

noncomputable section

/-! ## Sources of uniform numbers -/

/-- The uniform law of the numbers below a bound. -/
def below (bound : Nat) (hpos : 0 < bound) : PMF (Fin bound) :=
  have : Nonempty (Fin bound) := ⟨⟨0, hpos⟩⟩
  PMF.uniformOfFintype (Fin bound)

theorem below_apply {bound : Nat} (hpos : 0 < bound) (i : Fin bound) :
    below bound hpos i = (bound : ℝ≥0∞)⁻¹ := by
  have : Nonempty (Fin bound) := ⟨i⟩
  exact (PMF.uniformOfFintype_apply i).trans (by rw [Fintype.card_fin])

/-- As many of the numbers below `size` leave one remainder as any other. -/
theorem card_remainder {size bound : Nat} (hpos : 0 < bound) (hdvd : bound ∣ size)
    (j : Fin bound) :
    (Finset.univ.filter fun i : Fin size => i.val % bound = j.val).card = size / bound := by
  have hcount := Nat.count_modEq_card size hpos j.val
  rw [Nat.mod_eq_zero_of_dvd hdvd, if_neg (Nat.not_lt_zero _), Nat.add_zero,
    Nat.count_eq_card_filter_range] at hcount
  rw [← hcount, ← Finset.card_map Fin.valEmbedding]
  congr 1
  ext i
  simp only [Finset.mem_map, Finset.mem_filter, Finset.mem_univ, true_and, Fin.valEmbedding_apply,
    Finset.mem_range, Nat.ModEq, Nat.mod_eq_of_lt j.isLt]
  constructor
  · rintro ⟨i, hi, rfl⟩
    exact ⟨i.isLt, hi⟩
  · rintro ⟨hlt, hi⟩
    exact ⟨⟨i, hlt⟩, hi, rfl⟩

/-- The remainder of a uniform number is uniform, if the bound divides. -/
theorem below_map_mod {size bound : Nat} (hsize : 0 < size) (hpos : 0 < bound)
    (hdvd : bound ∣ size) :
    (below size hsize).map (fun i => (⟨i.val % bound, Nat.mod_lt _ hpos⟩ : Fin bound)) =
      below bound hpos := by
  apply PMF.ext
  intro j
  obtain ⟨times, rfl⟩ := hdvd
  have htimes : (times : ℝ≥0∞) ≠ 0 := by
    rw [Nat.cast_ne_zero]
    exact (Nat.pos_of_mul_pos_left hsize).ne'
  have hcard := card_remainder hpos (Dvd.intro times rfl) j
  rw [Nat.mul_div_cancel_left _ hpos] at hcard
  have hsame : ∀ i : Fin (bound * times), j = ⟨i.val % bound, Nat.mod_lt _ hpos⟩ ↔
      i.val % bound = j.val := fun i => by rw [Fin.ext_iff, eq_comm]
  rw [PMF.map_apply, tsum_fintype, below_apply]
  simp only [below_apply, hsame]
  rw [← Finset.sum_filter, Finset.sum_const, hcard, nsmul_eq_mul, Nat.cast_mul,
    ENNReal.mul_inv (Or.inr (ENNReal.natCast_ne_top _)) (Or.inl (ENNReal.natCast_ne_top _)),
    mul_comm, mul_assoc, ENNReal.inv_mul_cancel htimes (ENNReal.natCast_ne_top _), mul_one]

section

variable {R : Type u} (draw : R → (bound : Nat) → 0 < bound → Fin bound × R) (limit : Nat)

/-- So many draws are uniform and independent. -/
def UniformSource : Nat → PMF R → Prop
  | 0, _ => True
  | k + 1, μ => ∀ (bound : Nat) (hpos : 0 < bound), bound ≤ limit →
      ∃ ν, UniformSource k ν ∧
        μ.map (fun r => draw r bound hpos) = (below bound hpos).bind fun i => ν.map fun r => (i, r)

variable {draw limit}

/-- What happens on a draw: every number has the same part in it. -/
theorem UniformSource.prob_draw {k : Nat} {μ : PMF R} (h : UniformSource draw limit (k + 1) μ)
    {bound : Nat} (hpos : 0 < bound) (hle : bound ≤ limit) :
    ∃ ν, UniformSource draw limit k ν ∧ ∀ event : Fin bound → R → Prop,
      μ.toOuterMeasure {r | event (draw r bound hpos).1 (draw r bound hpos).2} =
        ∑ i, (bound : ℝ≥0∞)⁻¹ * ν.toOuterMeasure {r | event i r} := by
  obtain ⟨ν, hν, hlaw⟩ := h bound hpos hle
  refine ⟨ν, hν, ?_⟩
  intro event
  calc μ.toOuterMeasure {r | event (draw r bound hpos).1 (draw r bound hpos).2}
      = (μ.map fun r => draw r bound hpos).toOuterMeasure {p | event p.1 p.2} := by
        rw [PMF.toOuterMeasure_map_apply]
        rfl
    _ = ∑ i, (bound : ℝ≥0∞)⁻¹ * (ν.map fun r => (i, r)).toOuterMeasure {p | event p.1 p.2} := by
        rw [hlaw, PMF.toOuterMeasure_bind_apply, tsum_fintype]
        simp only [below_apply]
    _ = _ := by
        simp only [PMF.toOuterMeasure_map_apply]
        rfl

/-- A tape of numbers, each uniform below `size`. -/
def tape (size : Nat) (hsize : 0 < size) : Nat → PMF (List Nat)
  | 0 => PMF.pure []
  | k + 1 => (below size hsize).bind fun i => (tape size hsize k).map (List.cons i.val)

/-- A generator that reads a tape, and reduces each number to the bound it is asked for, is a
source, if the bounds divide. -/
theorem uniformSource_tape {state : List Nat → R}
    (hdraw : ∀ n ns bound (hpos : 0 < bound),
      draw (state (n :: ns)) bound hpos = (⟨n % bound, Nat.mod_lt n hpos⟩, state ns))
    {size : Nat} (hsize : 0 < size)
    (hdvd : ∀ bound, 0 < bound → bound ≤ limit → bound ∣ size) (k : Nat) :
    UniformSource draw limit k ((tape size hsize k).map state) := by
  induction k with
  | zero => trivial
  | succ k ih =>
      intro bound hpos hle
      refine ⟨(tape size hsize k).map state, ih, ?_⟩
      rw [tape, PMF.map_bind, PMF.map_bind, ← below_map_mod hsize hpos (hdvd bound hpos hle),
        PMF.bind_map]
      congr 1
      funext i
      simp only [PMF.map_comp, Function.comp_def, hdraw]

/-- There is a tape for every limit. -/
theorem exists_uniformSource {state : List Nat → R}
    (hdraw : ∀ n ns bound (hpos : 0 < bound),
      draw (state (n :: ns)) bound hpos = (⟨n % bound, Nat.mod_lt n hpos⟩, state ns))
    (limit k : Nat) : ∃ μ, UniformSource draw limit k μ :=
  ⟨_, uniformSource_tape hdraw limit.factorial_pos
    (fun _ hpos hle => Nat.dvd_factorial hpos hle) k⟩

end

/-! ## Picks one after the other -/

section

variable {α : Type u} (weight : α → Nat)

/-- Whatever happens with the holder of a ticket happens once for each ticket it holds. -/
theorem sum_holder {M : Type v} [AddCommMonoid M] {elements : List α}
    {holder : Fin (elements.map weight).sum → Fin elements.length}
    (hholder : ∀ ticket, selectTicket weight elements ticket.val = some (holder ticket))
    (f : Fin elements.length → M) :
    ∑ ticket, f (holder ticket) = ∑ i, weight (elements.get i) • f i := by
  rw [← Finset.sum_fiberwise Finset.univ holder]
  apply Finset.sum_congr rfl
  intro i _
  have hcard : (Finset.univ.filter fun ticket => holder ticket = i).card =
      weight (elements.get i) := by
    rw [← card_selectTicket weight elements i, ← Finset.card_map Fin.valEmbedding]
    congr 1
    ext ticket
    simp only [Finset.mem_map, Finset.mem_filter, Finset.mem_univ, true_and,
      Fin.valEmbedding_apply, Finset.mem_range]
    constructor
    · rintro ⟨ticket, rfl, rfl⟩
      exact ⟨ticket.isLt, hholder ticket⟩
    · rintro ⟨hlt, hfound⟩
      exact ⟨⟨ticket, hlt⟩, Option.some.inj ((hholder ⟨ticket, hlt⟩).symm.trans hfound), rfl⟩
  rw [Finset.sum_congr rfl fun ticket hticket => by rw [(Finset.mem_filter.mp hticket).2],
    Finset.sum_const, hcard]

variable [DecidableEq α]

/-- What a candidate weighs among all. -/
def share (candidates : Finset α) (a : α) : ℝ≥0∞ :=
  if a ∈ candidates then (weight a : ℝ≥0∞) / (candidates.sum weight : Nat) else 0

/-- The shares of further picks, each among the candidates that the picks before it leave. -/
def shares (candidates : List α → Finset α) : List α → List α → ℝ≥0∞
  | _, [] => 1
  | picks, a :: rest => share weight (candidates picks) a * shares candidates (a :: picks) rest

variable {weight} {candidates : List α → Finset α}

/-- There is a candidate for each of the picks, if a pick is no candidate any more. -/
theorem length_le_of_shares_ne_zero
    (hleaves : ∀ picks a, candidates (a :: picks) ⊆ (candidates picks).erase a)
    {picks rest : List α} (h : shares weight candidates picks rest ≠ 0) :
    rest.length ≤ (candidates picks).card := by
  induction rest generalizing picks with
  | nil => exact Nat.zero_le _
  | cons a rest ih =>
      obtain ⟨hshare, hrest⟩ := mul_ne_zero_iff.mp h
      have hmem : a ∈ candidates picks := by
        by_contra hnot
        exact hshare (if_neg hnot)
      have hfewer := Finset.card_le_card (hleaves picks a)
      rw [Finset.card_erase_of_mem hmem] at hfewer
      have hlength := ih hrest
      have hpos : 0 < (candidates picks).card := Finset.card_pos.mpr ⟨a, hmem⟩
      rw [List.length_cons]
      omega

end

end

end NoPanic.Math
