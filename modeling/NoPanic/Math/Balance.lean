/-
# Balances along a run

A quantity of the state that every step changes by what flows in, what flows out and what
the step costs. Along a run the flows and the costs add up, and the quantity at the end
balances them.
-/

import Mathlib.Algebra.BigOperators.Group.List.Basic
import Mathlib.Algebra.Ring.Nat
import NoPanic.Math.TransitionSystem

namespace NoPanic.Math

universe u v w

namespace TransitionSystem

variable {σ : Type u} {ε : Type v} {T : TransitionSystem σ ε}

/-- A quantity that every step balances together with the step's cost. -/
theorem CostRun.balance {cost : σ → ε → Nat} (quantity : σ → Nat) (inflow outflow : ε → Nat)
    {s₀ s : σ} {es : List ε} {n : Nat}
    (hkeep : ∀ s e t, T.step s e t → quantity t + outflow e + cost s e = quantity s + inflow e)
    (hrun : T.CostRun cost s₀ es n s) :
    quantity s + (es.map outflow).sum + n = quantity s₀ + (es.map inflow).sum := by
  induction hrun with
  | nil => rfl
  | @snoc t u es n e run last ih =>
      have hstep := hkeep t e u last
      simp only [List.map_append, List.map_cons, List.map_nil, List.sum_append, List.sum_cons,
        List.sum_nil, add_zero]
      omega

end TransitionSystem

end NoPanic.Math
