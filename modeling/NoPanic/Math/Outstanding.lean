/-
# Work that is done later

Several workers, each with a list of actions that it does in their order, one at a time. The
workers may overtake each other. What has been done and what is still outstanding are together
always what was given out: no action is lost, none is done twice, and none is made up.
-/

import Mathlib.Algebra.BigOperators.Group.List.Basic
import Mathlib.Algebra.Ring.Nat

namespace NoPanic.Math

universe u v

variable {α : Type u} {β : Type v}

/-- One worker does its first action. -/
inductive Takes : List (List α) → α → List (List α) → Prop
  | take {queues : List (List α)} {i : Nat} {a : α} {rest : List α}
      (first : queues[i]? = some (a :: rest)) : Takes queues a (queues.set i rest)

/-- The action is the only one that is no longer outstanding. -/
theorem Takes.perm {queues queues' : List (List α)} {a : α} (h : Takes queues a queues') :
    (a :: queues'.flatten).Perm queues.flatten := by
  obtain ⟨first⟩ := h
  rename_i i rest
  induction queues generalizing i with
  | nil => simp at first
  | cons q queues ih =>
      cases i with
      | zero =>
          simp only [List.getElem?_cons_zero, Option.some.injEq] at first
          subst first
          exact List.Perm.refl _
      | succ i =>
          simp only [List.getElem?_cons_succ] at first
          have hrest := ih first
          simp only [List.set_cons_succ, List.flatten_cons]
          exact (List.perm_middle.symm).trans (hrest.append_left q)

/-- What has been given out is what has been done and what is outstanding. -/
def Balanced (given done : List α) (queues : List (List α)) : Prop :=
  (done ++ queues.flatten).Perm given

variable {given done : List α} {queues : List (List α)}

/-- At the start nothing has been given out. -/
theorem balanced_nil : Balanced ([] : List α) [] [] := List.Perm.refl _

/-- More work for a new worker. -/
theorem Balanced.give (h : Balanced given done queues) (work : List α) :
    Balanced (given ++ work) done (queues ++ [work]) := by
  rw [Balanced, List.flatten_append, List.flatten_singleton, ← List.append_assoc]
  exact List.Perm.append_right work h

/-- A worker does an action. -/
theorem Balanced.take {queues' : List (List α)} {a : α} (h : Balanced given done queues)
    (htakes : Takes queues a queues') : Balanced given (done ++ [a]) queues' := by
  rw [Balanced, List.append_assoc, List.singleton_append]
  exact (List.Perm.append_left done htakes.perm).trans h

/-- Amounts add up: those of what was done and of what is outstanding are those of what was
given out. -/
theorem Balanced.sum_map (h : Balanced given done queues) (amount : α → Nat) :
    (done.map amount).sum + (queues.flatten.map amount).sum = (given.map amount).sum := by
  rw [← (h.map amount).sum_eq, List.map_append, List.sum_append]

/-- The results of what was done and of what is outstanding are those of what was given out. -/
theorem Balanced.filterMap (h : Balanced given done queues) (result : α → Option β) :
    (done.filterMap result ++ queues.flatten.filterMap result).Perm (given.filterMap result) := by
  rw [← List.filterMap_append]
  exact List.Perm.filterMap result h

end NoPanic.Math
