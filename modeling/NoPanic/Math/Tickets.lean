/-
# Draws by tickets

Every element of a list holds as many tickets as it weighs, in the order of the list, and a
draw is a ticket number. The tickets of an element form an interval, which a search finds by
passing the elements one by one and taking their tickets off the number.

A draw below the total always finds an element, and an element with a ticket; and every
element that has a ticket is found by some draw. More exactly, the tickets of an element are
those from what the elements before it weigh up to what they weigh together with it, so an
element is found by as many draws as it weighs.
-/

import Mathlib.Algebra.Ring.Nat
import Mathlib.Data.List.Basic
import Mathlib.Order.Interval.Finset.Nat

namespace NoPanic.Math

universe u

variable {α : Type u} (weight : α → Nat)

/-- The position of the element that holds a ticket. -/
def selectTicket : (elements : List α) → Nat → Option (Fin elements.length)
  | [], _ => none
  | a :: elements, ticket =>
      if ticket < weight a then some ⟨0, Nat.succ_pos _⟩
      else (selectTicket elements (ticket - weight a)).map Fin.succ

/-- A ticket below the total is held by somebody. -/
theorem selectTicket_isSome {elements : List α} {ticket : Nat}
    (h : ticket < (elements.map weight).sum) : (selectTicket weight elements ticket).isSome := by
  induction elements generalizing ticket with
  | nil => simp at h
  | cons a elements ih =>
      rw [List.map_cons, List.sum_cons] at h
      rw [selectTicket]
      split
      · rfl
      · next hpast =>
          rw [Option.isSome_map]
          exact ih (by omega)

/-- What the elements before a position weigh. -/
def weightBefore (elements : List α) (i : Nat) : Nat := ((elements.take i).map weight).sum

/-- With the element at the position, it is more by what that weighs. -/
theorem weightBefore_succ (elements : List α) (i : Fin elements.length) :
    weightBefore weight elements (i + 1) =
      weightBefore weight elements i + weight (elements.get i) := by
  rw [weightBefore, List.take_succ_eq_append_getElem i.isLt, List.map_append, List.sum_append]
  simp [weightBefore]

/-- All elements before a position weigh at most the total. -/
theorem weightBefore_le_sum (elements : List α) (i : Nat) :
    weightBefore weight elements i ≤ (elements.map weight).sum := by
  have hsplit : (elements.map weight).sum =
      weightBefore weight elements i + ((elements.drop i).map weight).sum := by
    rw [weightBefore, ← List.sum_append, ← List.map_append, List.take_append_drop]
  omega

/-- The tickets of an element form an interval. -/
theorem selectTicket_eq_some_iff {elements : List α} {ticket : Nat} {i : Fin elements.length} :
    selectTicket weight elements ticket = some i ↔
      weightBefore weight elements i ≤ ticket ∧
        ticket < weightBefore weight elements (i + 1) := by
  induction elements generalizing ticket with
  | nil => exact i.elim0
  | cons a elements ih =>
      rw [selectTicket]
      cases i using Fin.cases with
      | zero =>
          by_cases hfirst : ticket < weight a
          · simp [hfirst, weightBefore]
          · simp [hfirst, weightBefore, Fin.succ_ne_zero]
      | succ j =>
          have hbefore : ∀ k, weightBefore weight (a :: elements) (k + 1) =
              weight a + weightBefore weight elements k := by
            intro k
            rw [weightBefore, List.take_succ_cons, List.map_cons, List.sum_cons, weightBefore]
          rw [Fin.val_succ, hbefore, hbefore]
          by_cases hfirst : ticket < weight a
          · rw [if_pos hfirst]
            apply iff_of_false
            · simp [Fin.ext_iff]
            · omega
          · rw [if_neg hfirst, Option.map_eq_some_iff]
            simp only [Fin.succ_inj, exists_eq_right, ih]
            omega

/-- Whoever holds a ticket weighs something. -/
theorem pos_of_selectTicket {elements : List α} {ticket : Nat} {i : Fin elements.length}
    (h : selectTicket weight elements ticket = some i) : 0 < weight (elements.get i) := by
  obtain ⟨hle, hlt⟩ := (selectTicket_eq_some_iff weight).mp h
  rw [weightBefore_succ] at hlt
  omega

/-- Whoever weighs something holds a ticket below the total. -/
theorem exists_ticket {elements : List α} {i : Fin elements.length}
    (h : 0 < weight (elements.get i)) :
    ∃ ticket < (elements.map weight).sum, selectTicket weight elements ticket = some i := by
  have hlt : weightBefore weight elements i < weightBefore weight elements (i + 1) := by
    rw [weightBefore_succ]
    omega
  have htotal := weightBefore_le_sum weight elements (i + 1)
  exact ⟨weightBefore weight elements i, lt_of_lt_of_le hlt htotal,
    (selectTicket_eq_some_iff weight).mpr ⟨le_rfl, hlt⟩⟩

/-- An element is found by as many of the tickets as it weighs. -/
theorem card_selectTicket (elements : List α) (i : Fin elements.length) :
    ((Finset.range (elements.map weight).sum).filter fun ticket =>
      selectTicket weight elements ticket = some i).card = weight (elements.get i) := by
  have hinterval : ((Finset.range (elements.map weight).sum).filter fun ticket =>
      selectTicket weight elements ticket = some i) =
        Finset.Ico (weightBefore weight elements i) (weightBefore weight elements (i + 1)) := by
    ext ticket
    have htotal := weightBefore_le_sum weight elements (i + 1)
    rw [Finset.mem_filter, Finset.mem_range, Finset.mem_Ico, selectTicket_eq_some_iff]
    omega
  rw [hinterval, Nat.card_Ico, weightBefore_succ, Nat.add_sub_cancel_left]

end NoPanic.Math
