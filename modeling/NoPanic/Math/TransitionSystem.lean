/-
# Labelled transition systems

States, initial states and steps labelled by events. A run keeps its events in
the order they happened, so that a property may speak of the whole history and
not only of the state a run ends in. Restricting a system to the steps that meet
a condition gives the runs whose every step meets it; an invariant of the
restricted system is a property of exactly those runs.

A step may have a cost, which depends on the state it is taken in; the costs of a run add
up. A forward simulation maps the runs of one system to runs of another. Steps that
map to nothing stutter, so a system with more moving parts may simulate one that
sees only some of them.
-/

import Mathlib.Logic.Relation

namespace NoPanic.Math

universe u v w

/-- A system that takes steps, each under an event. -/
structure TransitionSystem (σ : Type u) (ε : Type v) where
  /-- The states a run may start in. -/
  init : σ → Prop
  /-- One step from a state, under an event, to a state. -/
  step : σ → ε → σ → Prop

namespace TransitionSystem

variable {σ : Type u} {ε : Type v} {τ : Type w} (T : TransitionSystem σ ε)

/-- A finite run between two states, with its events in order. -/
inductive Run : σ → List ε → σ → Prop
  | /-- The run that has taken no step. -/
    nil (s : σ) : Run s [] s
  | /-- One more step at the end of a run. -/
    snoc {s t u : σ} {es : List ε} {e : ε} (run : Run s es t) (last : T.step t e u) :
      Run s (es ++ [e]) u

/-- The states that a run from an initial state ends in. -/
def Reachable (s : σ) : Prop :=
  ∃ s₀ es, T.init s₀ ∧ T.Run s₀ es s

/-- The same system with only those steps that meet `condition`. -/
def restrict (condition : σ → ε → Prop) : TransitionSystem σ ε where
  init := T.init
  step s e t := condition s e ∧ T.step s e t

variable {T}

/-- A run may equally be extended at its front. -/
theorem Run.cons {s t u : σ} {e : ε} {es : List ε} (first : T.step s e t)
    (run : T.Run t es u) : T.Run s (e :: es) u := by
  induction run with
  | nil => exact Run.snoc (Run.nil s) first
  | snoc _ last ih => exact Run.snoc ih last

/-- Runs compose, and so do their events. -/
theorem Run.trans {s t u : σ} {es fs : List ε} (first : T.Run s es t)
    (second : T.Run t fs u) : T.Run s (es ++ fs) u := by
  induction second with
  | nil => simpa using first
  | snoc _ last ih =>
      rw [← List.append_assoc]
      exact Run.snoc ih last

/-- An initial state is reachable. -/
theorem reachable_of_init {s : σ} (hinit : T.init s) : T.Reachable s :=
  ⟨s, [], hinit, Run.nil s⟩

/-- One more step of a reachable state. -/
theorem Reachable.next {s t : σ} {e : ε} (hreach : T.Reachable s) (hstep : T.step s e t) :
    T.Reachable t := by
  obtain ⟨s₀, es, hinit, hrun⟩ := hreach
  exact ⟨s₀, es ++ [e], hinit, hrun.snoc hstep⟩

/-- What holds at the start and is kept by every step, given the history so far,
holds at the end of every run together with its whole history. -/
theorem Run.invariant_history (inv : σ → List ε → Prop) {s₀ : σ} (hstart : inv s₀ [])
    (hkeep : ∀ s es e t, T.Run s₀ es s → inv s es → T.step s e t → inv t (es ++ [e]))
    {es : List ε} {s : σ} (hrun : T.Run s₀ es s) : inv s es := by
  induction hrun with
  | nil => exact hstart
  | snoc run last ih => exact hkeep _ _ _ _ run ih last

/-- What holds at the start and is kept by every step holds at the end of every
run. -/
theorem Run.invariant (inv : σ → Prop) {s₀ s : σ} {es : List ε} (hstart : inv s₀)
    (hkeep : ∀ s e t, inv s → T.step s e t → inv t) (hrun : T.Run s₀ es s) : inv s :=
  Run.invariant_history (fun s _ => inv s) hstart
    (fun s _ e t _ hs hstep => hkeep s e t hs hstep) hrun

/-- An inductive invariant holds in every reachable state. -/
theorem Reachable.invariant (inv : σ → Prop) (hinit : ∀ s, T.init s → inv s)
    (hkeep : ∀ s e t, inv s → T.step s e t → inv t) {s : σ} (hreach : T.Reachable s) :
    inv s := by
  obtain ⟨s₀, es, hs₀, hrun⟩ := hreach
  exact hrun.invariant inv (hinit s₀ hs₀) hkeep

/-- A run whose steps all meet a condition is a run. -/
theorem Run.of_restrict {condition : σ → ε → Prop} {s t : σ} {es : List ε}
    (hrun : (T.restrict condition).Run s es t) : T.Run s es t := by
  induction hrun with
  | nil => exact Run.nil _
  | snoc _ last ih => exact Run.snoc ih last.2

/-- A function that carries every step to a step under the same event carries runs to runs. -/
theorem Run.map {U : TransitionSystem τ ε} (f : σ → τ)
    (hstep : ∀ s e t, T.step s e t → U.step (f s) e (f t)) {s t : σ} {es : List ε}
    (hrun : T.Run s es t) : U.Run (f s) es (f t) := by
  induction hrun with
  | nil => exact Run.nil _
  | snoc _ last ih => exact Run.snoc ih (hstep _ _ _ last)

/-- A run under events that always meet a condition is a run of the restricted system. -/
theorem Run.restrict {condition : σ → ε → Prop} {s t : σ} {es : List ε} (hrun : T.Run s es t)
    (hmeets : ∀ e ∈ es, ∀ u, condition u e) : (T.restrict condition).Run s es t := by
  induction hrun with
  | nil => exact Run.nil _
  | snoc _ last ih =>
      refine Run.snoc (ih fun e he => hmeets e (List.mem_append_left _ he)) ⟨?_, last⟩
      exact hmeets _ (List.mem_append_right _ (List.mem_singleton_self _)) _

/-- Where some allowed step makes a measure less whenever it is not zero, a run of allowed
steps brings it to zero. -/
theorem exists_run_to_zero (inv : σ → Prop) (allowed : ε → Prop) (measure : σ → Nat)
    (hnext : ∀ s, inv s → measure s ≠ 0 →
      ∃ e t, allowed e ∧ T.step s e t ∧ inv t ∧ measure t < measure s)
    {s : σ} (hs : inv s) :
    ∃ es t, T.Run s es t ∧ (∀ e ∈ es, allowed e) ∧ inv t ∧ measure t = 0 := by
  induction hn : measure s using Nat.strongRecOn generalizing s with
  | _ n ih =>
      by_cases hzero : measure s = 0
      · exact ⟨[], s, Run.nil s, by simp, hs, hzero⟩
      · obtain ⟨e, t, he, hstep, ht, hless⟩ := hnext s hs hzero
        obtain ⟨es, u, hrun, hall, hu, hlast⟩ := ih _ (hn ▸ hless) ht rfl
        refine ⟨e :: es, u, hrun.cons hstep, ?_, hu, hlast⟩
        intro f hf
        rcases List.mem_cons.mp hf with rfl | hf
        · exact he
        · exact hall f hf

/-! ## The cost of a run -/

/-- A run whose steps, each at what it costs in the state before it, cost `n` in all. -/
inductive CostRun (T : TransitionSystem σ ε) (cost : σ → ε → Nat) : σ → List ε → Nat → σ → Prop
  | /-- A run that has taken no step costs nothing. -/
    nil (s : σ) : CostRun T cost s [] 0 s
  | /-- The last step adds its cost. -/
    snoc {s t u : σ} {es : List ε} {n : Nat} {e : ε} (run : CostRun T cost s es n t)
      (last : T.step t e u) : CostRun T cost s (es ++ [e]) (n + cost t e) u

/-- Every run has a cost. -/
theorem Run.exists_costRun {s t : σ} {es : List ε} (hrun : T.Run s es t) (cost : σ → ε → Nat) :
    ∃ n, T.CostRun cost s es n t := by
  induction hrun with
  | nil => exact ⟨0, CostRun.nil _⟩
  | snoc _ last ih =>
      obtain ⟨n, hcost⟩ := ih
      exact ⟨_, hcost.snoc last⟩

/-- A run under events that never cost anything costs nothing. -/
theorem Run.costRun_zero {cost : σ → ε → Nat} {s t : σ} {es : List ε} (hrun : T.Run s es t)
    (hfree : ∀ e ∈ es, ∀ u, cost u e = 0) : T.CostRun cost s es 0 t := by
  induction hrun with
  | nil => exact CostRun.nil _
  | @snoc t u es e _ last ih =>
      have hbefore := ih fun f hf => hfree f (List.mem_append_left _ hf)
      have hlast : cost t e = 0 := hfree e (List.mem_append_right _ (List.mem_singleton_self e)) t
      simpa [hlast] using hbefore.snoc last

/-- What holds at the start at no cost, and is kept by every step at the step's cost, holds
at the end of every run at its cost. -/
theorem CostRun.invariant {cost : σ → ε → Nat} (inv : σ → Nat → Prop) {s₀ s : σ}
    (hstart : inv s₀ 0) (hkeep : ∀ s n e t, inv s n → T.step s e t → inv t (n + cost s e))
    {es : List ε} {n : Nat} (hrun : T.CostRun cost s₀ es n s) : inv s n := by
  induction hrun with
  | nil => exact hstart
  | snoc _ last ih => exact hkeep _ _ _ _ ih last

/-! ## What a run passes -/

/-- A run that passes a state with a property: there it splits into two. -/
def Passes (T : TransitionSystem σ ε) (property : σ → Prop) (s : σ) (es : List ε) (t : σ) : Prop :=
  ∃ es₁ u es₂, es = es₁ ++ es₂ ∧ T.Run s es₁ u ∧ property u ∧ T.Run u es₂ t

/-- A run passes the state it ends in. -/
theorem Run.passes_last {property : σ → Prop} {s t : σ} {es : List ε} (hrun : T.Run s es t)
    (ht : property t) : T.Passes property s es t :=
  ⟨es, t, [], (List.append_nil es).symm, hrun, ht, Run.nil t⟩

/-- What a run passes it has passed when it goes on. -/
theorem Passes.snoc {property : σ → Prop} {s t u : σ} {es : List ε} {e : ε}
    (h : T.Passes property s es t) (last : T.step t e u) : T.Passes property s (es ++ [e]) u := by
  obtain ⟨es₁, v, es₂, rfl, hbefore, hv, hafter⟩ := h
  exact ⟨es₁, v, es₂ ++ [e], List.append_assoc .., hbefore, hv, hafter.snoc last⟩

/-- A run that passes a state with a property passes one with any weaker property. -/
theorem Passes.mono {property weaker : σ → Prop} (hweaker : ∀ u, property u → weaker u) {s t : σ}
    {es : List ε} (h : T.Passes property s es t) : T.Passes weaker s es t := by
  obtain ⟨es₁, u, es₂, heq, hbefore, hu, hafter⟩ := h
  exact ⟨es₁, u, es₂, heq, hbefore, hweaker u hu, hafter⟩

/-- A run that takes a step with a property, of the state it leaves and of its event: there it
splits into what was before and what comes after. -/
def Takes (T : TransitionSystem σ ε) (property : σ → ε → Prop) (s : σ) (es : List ε) (t : σ) :
    Prop :=
  ∃ es₁ u e v es₂, es = es₁ ++ e :: es₂ ∧ T.Run s es₁ u ∧ property u e ∧ T.step u e v ∧
    T.Run v es₂ t

/-- A run takes its last step. -/
theorem Run.takes_last {property : σ → ε → Prop} {s t u : σ} {es : List ε} {e : ε}
    (hrun : T.Run s es t) (hproperty : property t e) (last : T.step t e u) :
    T.Takes property s (es ++ [e]) u :=
  ⟨es, t, e, u, [], rfl, hrun, hproperty, last, Run.nil u⟩

/-- What a run takes it has taken when it goes on. -/
theorem Takes.snoc {property : σ → ε → Prop} {s t u : σ} {es : List ε} {e : ε}
    (h : T.Takes property s es t) (last : T.step t e u) : T.Takes property s (es ++ [e]) u := by
  obtain ⟨es₁, v, f, w, es₂, rfl, hbefore, hv, hstep, hafter⟩ := h
  exact ⟨es₁, v, f, w, es₂ ++ [e], List.append_assoc .., hbefore, hv, hstep, hafter.snoc last⟩

/-! ## Leaving events out -/

/-- A run with the events left out that only `T` sees is a run of `U`: a step under a
kept event is matched, and a step under any other event is not seen. -/
theorem Run.project {U : TransitionSystem τ ε} (related : σ → τ → Prop) (keep : ε → Bool)
    (hkept : ∀ s e s' t, keep e = true → T.step s e s' → related s t →
      ∃ t', U.step t e t' ∧ related s' t')
    (hskipped : ∀ s e s' t, keep e = false → T.step s e s' → related s t → related s' t)
    {s s' : σ} {t : τ} {es : List ε} (hrun : T.Run s es s') (hstart : related s t) :
    ∃ t', U.Run t (es.filter keep) t' ∧ related s' t' := by
  induction hrun with
  | nil => exact ⟨t, Run.nil t, hstart⟩
  | @snoc _ _ _ e run last ih =>
      obtain ⟨t', hfirst, hrelated⟩ := ih
      rw [List.filter_append]
      cases hkeep : keep e with
      | true =>
          obtain ⟨u, hstep, hrelated'⟩ := hkept _ _ _ _ hkeep last hrelated
          refine ⟨u, ?_, hrelated'⟩
          rw [List.filter_cons_of_pos hkeep]
          exact hfirst.snoc hstep
      | false =>
          refine ⟨t', ?_, hskipped _ _ _ _ hkeep last hrelated⟩
          rw [List.filter_cons_of_neg (by simp [hkeep]), List.filter_nil, List.append_nil]
          exact hfirst

/-! ## Forward simulation -/

/-- `view` carries every step of `T` to a step of `U`, or to no change at all. -/
structure Simulation {ε' : Type*} (T : TransitionSystem σ ε) (U : TransitionSystem τ ε')
    (view : σ → τ) (inv : σ → Prop) : Prop where
  /-- Initial states are seen as initial states. -/
  init : ∀ s, T.init s → U.init (view s)
  /-- A step from a state of the invariant is seen as a step or as a stutter. -/
  step : ∀ s e t, inv s → T.step s e t → view t = view s ∨ ∃ e', U.step (view s) e' (view t)

/-- A simulation carries reachable states to reachable states. -/
theorem Simulation.reachable {ε' : Type*} {U : TransitionSystem τ ε'} {view : σ → τ}
    {inv : σ → Prop} (sim : Simulation T U view inv) (hinit : ∀ s, T.init s → inv s)
    (hkeep : ∀ s e t, inv s → T.step s e t → inv t) {s : σ} (hreach : T.Reachable s) :
    U.Reachable (view s) := by
  have hboth : inv s ∧ U.Reachable (view s) := by
    refine Reachable.invariant (fun s => inv s ∧ U.Reachable (view s))
      (fun s hs => ⟨hinit s hs, reachable_of_init (sim.init s hs)⟩) ?_ hreach
    rintro s e t ⟨hs, hview⟩ hstep
    refine ⟨hkeep s e t hs hstep, ?_⟩
    rcases sim.step s e t hs hstep with hstutter | ⟨e', hstep'⟩
    · rwa [hstutter]
    · exact hview.next hstep'
  exact hboth.2

end TransitionSystem

end NoPanic.Math
