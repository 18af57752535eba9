/-
# What the rebuild budget records

A call of `replace_circuit` takes the failed circuit out of the pool and builds another.
A failure raises the count of the slot, and the slot is abandoned once the count has
reached the budget. A success removes the count, but a slot that has been abandoned stays
abandoned. So the count of a slot is the streak of failures at the end of its calls, and
a slot is abandoned exactly when its calls contain a full row of failures. The calls for
other slots do not matter.

This is said of sequences of calls, and of the runs of the pool with all its tasks, in
which the calls are found among the events.
-/

import NoPanic.Client.PoolBudget
import NoPanic.Math.Streak

namespace NoPanic

open NoPanic.Math

/-- The budget of a slot after the calls of `replace_circuit` for it, given by whether each
has succeeded. -/
structure CircuitPool.Tracks (pool : CircuitPool) (budget : Nat) (id : CircuitId)
    (outcomes : List Bool) : Prop where
  attempts : pool.maxRebuildAttempts = budget
  count : pool.rebuildFailureCounts.lookup id =
    if streak (!·) outcomes = 0 then none else some (streak (!·) outcomes)
  abandoned : pool.isAbandoned id = true ↔ HasRow (!·) budget outcomes

namespace CircuitPool

/-- No failure is recorded, and no slot is abandoned. -/
structure Untried (pool : CircuitPool) : Prop where
  counts : pool.rebuildFailureCounts = ∅
  abandoned : pool.abandonedSlots = ∅

/-- `replace_circuit`, with the place of the circuit that has been built and the time. The
result is the place of the replacement. -/
def replaceCircuit (pool : CircuitPool) (failedId : CircuitId) (built : Option (Nat × Nat)) :
    CircuitPool × Option Nat :=
  let (pool, id) := (pool.removeCircuit failedId).allocateCircuitId
  match built with
  | some (k, now) =>
      let pool := (pool.insertCircuit id k now).rebuilt failedId
      (pool, pool.circuits.lookup id)
  | none => (pool.rebuildFailed failedId, none)

/-- One call after the other. -/
def replaceCalls (pool : CircuitPool) (calls : List (CircuitId × Option (Nat × Nat))) :
    CircuitPool :=
  calls.foldl (fun pool call => (pool.replaceCircuit call.1 call.2).1) pool

/-- Which of the calls for a circuit have succeeded. -/
def outcomesFor (id : CircuitId) (calls : List (CircuitId × Option (Nat × Nat))) : List Bool :=
  (calls.filter fun call => call.1 == id).map fun call => call.2.isSome

/-- A call that has built a circuit returns it, and no other call returns one. -/
theorem replaceCircuit_snd (pool : CircuitPool) (failedId : CircuitId)
    (built : Option (Nat × Nat)) :
    (pool.replaceCircuit failedId built).2 = built.map Prod.fst := by
  cases built with
  | none => rfl
  | some circuit => exact AList.lookup_insert _

section

variable {pool : CircuitPool} {budget : Nat} {id : CircuitId} {outcomes : List Bool}

/-- What is known of a slot depends on its budget only. -/
theorem Tracks.of_sameBudget {other : CircuitPool} (h : pool.Tracks budget id outcomes)
    (hsame : other.SameBudget pool) : other.Tracks budget id outcomes :=
  ⟨hsame.attempts.trans h.attempts, by rw [hsame.counts, h.count], by
    rw [isAbandoned, hsame.abandoned, ← h.abandoned, isAbandoned]⟩

/-- Where nothing has been tried, there are no calls. -/
theorem Untried.tracks (h : pool.Untried) (hattempts : 1 ≤ pool.maxRebuildAttempts)
    (id : CircuitId) : pool.Tracks pool.maxRebuildAttempts id [] := by
  refine ⟨rfl, ?_, ?_⟩
  · rw [h.counts, streak_nil, if_pos rfl, AList.lookup_empty]
  · have hnot : pool.isAbandoned id = false := by simp [isAbandoned, h.abandoned]
    rw [hnot, hasRow_nil]
    constructor
    · intro hfalse
      cases hfalse
    · intro hzero
      omega

/-- The recorded count is the streak. -/
theorem Tracks.failures (h : pool.Tracks budget id outcomes) :
    pool.failures id = streak (!·) outcomes := by
  rw [CircuitPool.failures, h.count]
  split
  · next hzero => rw [hzero, Option.getD_none]
  · rfl

/-- A success ends the streak of its slot, and abandons nothing. -/
theorem Tracks.rebuilt (h : pool.Tracks budget id outcomes) (hbudget : 1 ≤ budget)
    (failedId : CircuitId) :
    (pool.rebuilt failedId).Tracks budget id
      (outcomes ++ if failedId = id then [true] else []) := by
  by_cases heq : failedId = id
  · subst heq
    have hstreak : streak (!·) (outcomes ++ [true]) = 0 := by simp
    rw [if_pos rfl]
    refine ⟨h.attempts, ?_, ?_⟩
    · rw [hstreak, if_pos rfl]
      exact AList.lookup_erase _ _
    · rw [hasRow_snoc, hstreak, ← h.abandoned]
      constructor
      · exact Or.inl
      · rintro (habandoned | hle)
        · exact habandoned
        · omega
  · rw [if_neg heq, List.append_nil]
    refine ⟨h.attempts, ?_, h.abandoned⟩
    rw [CircuitPool.rebuilt, HashMap.lookup_erase_eq, if_neg (Ne.symm heq), h.count]

/-- A failure prolongs the streak of its slot, and abandons it when the streak has used up
the budget. -/
theorem Tracks.rebuildFailed (h : pool.Tracks budget id outcomes) (failedId : CircuitId) :
    (pool.rebuildFailed failedId).Tracks budget id
      (outcomes ++ if failedId = id then [false] else []) := by
  have hslots : (pool.rebuildFailed failedId).isAbandoned id = true ↔
      pool.isAbandoned id = true ∨
        failedId = id ∧ pool.maxRebuildAttempts ≤ pool.failures failedId + 1 := by
    rw [isAbandoned, isAbandoned, decide_eq_true_iff, decide_eq_true_iff,
      CircuitPool.rebuildFailed]
    dsimp only
    split
    · next hused =>
      rw [Finset.mem_insert, or_comm, eq_comm]
      simp [hused]
    · next hleft => simp [hleft]
  by_cases heq : failedId = id
  · subst heq
    have hstreak : streak (!·) (outcomes ++ [false]) = streak (!·) outcomes + 1 := by simp
    rw [if_pos rfl]
    refine ⟨h.attempts, ?_, ?_⟩
    · rw [hstreak, if_neg (Nat.succ_ne_zero _), ← h.failures]
      exact AList.lookup_insert _
    · rw [hslots, hasRow_snoc, hstreak, h.abandoned, h.attempts, h.failures]
      simp
  · rw [if_neg heq, List.append_nil]
    refine ⟨h.attempts, ?_, ?_⟩
    · rw [← h.count]
      exact AList.lookup_insert_ne (Ne.symm heq)
    · rw [hslots, h.abandoned]
      simp [heq]

/-! ## Sequences of calls -/

/-- One call keeps what is known of every slot. -/
theorem Tracks.replaceCircuit (h : pool.Tracks budget id outcomes) (hbudget : 1 ≤ budget)
    (failedId : CircuitId) (built : Option (Nat × Nat)) :
    (pool.replaceCircuit failedId built).1.Tracks budget id
      (outcomes ++ if failedId = id then [built.isSome] else []) := by
  cases built with
  | none =>
      have hfailed := h.rebuildFailed failedId
      exact hfailed.of_sameBudget ⟨rfl, rfl, rfl⟩
  | some circuit =>
      have hrebuilt := h.rebuilt hbudget failedId
      exact hrebuilt.of_sameBudget ⟨rfl, rfl, rfl⟩

/-- The calls so far, and one more. -/
theorem outcomesFor_snoc (id : CircuitId) (calls : List (CircuitId × Option (Nat × Nat)))
    (call : CircuitId × Option (Nat × Nat)) :
    outcomesFor id (calls ++ [call]) =
      outcomesFor id calls ++ if call.1 = id then [call.2.isSome] else [] := by
  rw [outcomesFor, List.filter_append, List.map_append, outcomesFor]
  congr 1
  by_cases heq : call.1 = id <;> simp [heq]

/-- Every sequence of calls is recorded, whatever the order in which slots are called. -/
theorem tracks_replaceCalls (huntried : pool.Untried) (hattempts : 1 ≤ pool.maxRebuildAttempts)
    (id : CircuitId) (calls : List (CircuitId × Option (Nat × Nat))) :
    (pool.replaceCalls calls).Tracks pool.maxRebuildAttempts id (outcomesFor id calls) := by
  induction calls using List.reverseRecOn with
  | nil => exact huntried.tracks hattempts id
  | append_singleton calls call ih =>
      rw [replaceCalls, List.foldl_append, outcomesFor_snoc]
      exact ih.replaceCircuit hattempts call.1 call.2

/-- After any calls on a new pool that `initialize` has filled, a slot is abandoned exactly
when its calls contain as many failures in a row as the budget allows, the recorded count is
the streak of failures at the end of its calls (no count is recorded when there is none), and
a call for another circuit changes neither. -/
theorem replaceCalls_budget (poolSize attempts : Nat) (hattempts : 1 ≤ attempts)
    (built : List (OnionKeys × Nat)) (calls : List (CircuitId × Option (Nat × Nat)))
    (id : CircuitId) :
    let start := (PoolState.initialized (CircuitPool.new poolSize attempts) built).pool
    let after := start.replaceCalls calls
    (after.isAbandoned id = true ↔ HasRow (!·) attempts (outcomesFor id calls)) ∧
      after.rebuildFailureCounts.lookup id =
        (if streak (!·) (outcomesFor id calls) = 0 then none
          else some (streak (!·) (outcomesFor id calls))) ∧
      ∀ failedId outcome, failedId ≠ id →
        (after.replaceCircuit failedId outcome).1.isAbandoned id = after.isAbandoned id ∧
          (after.replaceCircuit failedId outcome).1.rebuildFailureCounts.lookup id =
            after.rebuildFailureCounts.lookup id := by
  intro start after
  have hsame := PoolState.sameBudget_initialized (CircuitPool.new poolSize attempts) built
  have htracks : after.Tracks attempts id (outcomesFor id calls) := by
    have hstart : start.maxRebuildAttempts = attempts := hsame.attempts
    rw [← hstart]
    exact tracks_replaceCalls ⟨hsame.counts, hsame.abandoned⟩ (hstart.symm ▸ hattempts) id calls
  refine ⟨htracks.abandoned, htracks.count, ?_⟩
  intro failedId outcome hne
  have hnext := htracks.replaceCircuit hattempts failedId outcome
  rw [if_neg hne, List.append_nil] at hnext
  constructor
  · rw [Bool.eq_iff_iff, hnext.abandoned, htracks.abandoned]
  · rw [hnext.count, htracks.count]

/-- A budget of two, and two slots whose calls are mixed: the first fails twice in a row and
is abandoned, the second succeeds in between and is not. -/
theorem replaceCalls_budget_two :
    let calls := [(1, none), (2, none), (1, none), (2, some (0, 7)), (2, none)]
    let after := (PoolState.initialized (CircuitPool.new 0 2) []).pool.replaceCalls calls
    after.isAbandoned 1 = true ∧ ¬ HasRow (!·) 2 (outcomesFor 2 calls) ∧
      after.rebuildFailureCounts.lookup 2 = some 1 := by
  intro calls after
  have hfirst := replaceCalls_budget 0 2 (by decide) [] calls 1
  have hsecond := replaceCalls_budget 0 2 (by decide) [] calls 2
  refine ⟨hfirst.1.mpr ⟨[false, false], rfl, List.infix_refl _, by decide⟩, ?_, ?_⟩
  · rw [← hsecond.1]
    decide
  · rw [hsecond.2.1]
    rfl

end

end CircuitPool

/-! ## Runs of the pool -/

namespace PoolState

/-- A task that replaces a circuit, and whose build ends well, has called
`replace_circuit`. -/
theorem pool_finishBuild_startReplace (s : PoolState) (caller : Option Nat)
    (failedId : CircuitId) (onionKeys : OnionKeys) (now : Nat) :
    ((s.startReplace caller failedId).finishBuild (.replace caller failedId)
        s.pool.nextCircuitId onionKeys now).pool =
      (s.pool.replaceCircuit failedId (some (s.heap.length, now))).1 := by
  cases caller <;> rfl

/-- So has one whose build fails. -/
theorem pool_failBuild_startReplace (s : PoolState) (caller : Option Nat)
    (failedId : CircuitId) :
    ((s.startReplace caller failedId).failBuild (.replace caller failedId)).pool =
      (s.pool.replaceCircuit failedId none).1 := by
  cases caller <;> rfl

variable [Primitives] {s₀ s s' : PoolState} {id : CircuitId} {budget : Nat}

/-- One step of any task keeps what is known of every slot. -/
theorem tracks_step {outcomes : List Bool} {e : PoolEvent}
    (h : s.pool.Tracks budget id outcomes) (hbudget : 1 ≤ budget) (hstep : Step s e s') :
    s'.pool.Tracks budget id (outcomes ++ (e.outcomeFor id).toList) := by
  rcases budget_step hstep with ⟨hnone, hsame⟩ | ⟨caller, failedId, onionKeys, now, rfl, hsame⟩ |
    ⟨caller, failedId, rfl, hsame⟩
  · rw [hnone id, Option.toList_none, List.append_nil]
    exact h.of_sameBudget hsame
  · have hrebuilt := (h.rebuilt hbudget failedId).of_sameBudget hsame
    rw [PoolEvent.outcomeFor]
    split
    · next heq => rwa [if_pos heq] at hrebuilt
    · next hne => rwa [if_neg hne] at hrebuilt
  · have hfailed := (h.rebuildFailed failedId).of_sameBudget hsame
    rw [PoolEvent.outcomeFor]
    split
    · next heq => rwa [if_pos heq] at hfailed
    · next hne => rwa [if_neg hne] at hfailed

/-- In every run after `initialize` the pool knows of every slot what the calls of
`replace_circuit` that have ended say. -/
theorem tracks_of_run {es : List PoolEvent} (hstart : s₀.Started)
    (hattempts : 1 ≤ s₀.pool.maxRebuildAttempts) (hrun : system.Run s₀ es s) (id : CircuitId) :
    s.pool.Tracks s₀.pool.maxRebuildAttempts id (es.filterMap (PoolEvent.outcomeFor id)) := by
  have hnone : s₀.pool.Untried := by
    obtain ⟨pool, built, -, -, hcounts, habandoned, -, rfl⟩ := hstart
    have hsame := sameBudget_initialized pool built
    exact ⟨hsame.counts.trans hcounts, hsame.abandoned.trans habandoned⟩
  apply hrun.invariant_history (fun s es => s.pool.Tracks s₀.pool.maxRebuildAttempts id
    (es.filterMap (PoolEvent.outcomeFor id)))
  · exact hnone.tracks hattempts id
  · intro s es e t _ htracks hstep
    have hnext := tracks_step htracks hattempts hstep
    rw [List.filterMap_append]
    convert hnext using 2
    cases hout : e.outcomeFor id <;> simp [hout]

end PoolState

end NoPanic
