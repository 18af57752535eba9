/-
# The rebuild budget of a circuit

When a circuit has closed, the monitor finds it in the pool at every pass and replaces
it, and the pool counts how often building the replacement has failed. But a circuit
leaves the pool before its replacement is built. When the build fails, no later pass
finds it: the slot is lost after one failure, whatever the budget. The budget is
honoured only where the failure that comes first is also the last.

What the monitor has found it also retries: it goes through its list, waits for every
circuit as long as the failures say, and then calls `replace_circuit`.
-/

import NoPanic.Client.Pool
import NoPanic.Common.Reference

namespace NoPanic

open NoPanic.Math

/-- A circuit that is closed stays closed. -/
theorem CircuitTask.Step.closed [Primitives] {t t' : CircuitTask} {e : CircuitEvent}
    (hstep : t.Step e t') (hclosed : t.circuit.state = .closed) : t'.circuit.state = .closed := by
  cases hstep with
  | allocates | registers | unregisters => exact hclosed
  | sends streamId command data entryWriter =>
      rwa [(sendMessage_frame t.circuit streamId command data entryWriter).2.1]
  | expires => rwa [expire, if_neg (by rw [hclosed]; decide)]
  | receives msg hreading =>
      cases haccept : t.circuit.onionKeys.backwardEnd.accept? msg with
      | none => exact (receive_of_not_accept haccept).1
      | some out => rwa [(receive_of_accept haccept).2.1]
  | ends | finishes => rfl

/-- A failed call of `replace_circuit` for a circuit. -/
def PoolEvent.failsFor (id : CircuitId) : PoolEvent → Bool
  | .fails (.replace _ failedId) => failedId == id
  | _ => false

/-- How an event ends a call of `replace_circuit` for a circuit, if it does. -/
def PoolEvent.outcomeFor (id : CircuitId) : PoolEvent → Option Bool
  | .builds (.replace _ failedId) _ _ => if failedId = id then some true else none
  | .fails (.replace _ failedId) => if failedId = id then some false else none
  | _ => none

/-- An event that ends no call is no failure of one. -/
theorem PoolEvent.failsFor_of_outcomeFor {e : PoolEvent} {id : CircuitId}
    (h : e.outcomeFor id = none) : e.failsFor id = false := by
  cases e with
  | fails purpose =>
      cases purpose with
      | aged | select => rfl
      | replace caller failedId => simpa [PoolEvent.outcomeFor, PoolEvent.failsFor] using h
  | _ => rfl

/-- A successful call of `replace_circuit` for a circuit. -/
def PoolEvent.replacesFor (id : CircuitId) : PoolEvent → Bool
  | .builds (.replace _ failedId) _ _ => failedId == id
  | _ => false

/-- How many calls of `replace_circuit` for a circuit have failed. -/
def failedCalls (id : CircuitId) (es : List PoolEvent) : Nat := es.countP (PoolEvent.failsFor id)

theorem failedCalls_snoc (id : CircuitId) (es : List PoolEvent) (e : PoolEvent) :
    failedCalls id (es ++ [e]) = failedCalls id es + if e.failsFor id then 1 else 0 := by
  rw [failedCalls, failedCalls, List.countP_append, List.countP_singleton]

/-- The failures of a slot after one more. -/
theorem CircuitPool.failures_rebuildFailed (p : CircuitPool) (id failedId : CircuitId) :
    (p.rebuildFailed failedId).failures id =
      if id = failedId then p.failures id + 1 else p.failures id := by
  rw [CircuitPool.failures, CircuitPool.rebuildFailed]
  dsimp only
  rw [HashMap.lookup_insert_eq]
  split
  · next heq => rw [heq, Option.getD_some]
  · rfl

/-- The failures of a slot after a success. -/
theorem CircuitPool.failures_rebuilt_le (p : CircuitPool) (id failedId : CircuitId) :
    (p.rebuilt failedId).failures id ≤ p.failures id := by
  rw [CircuitPool.failures, CircuitPool.rebuilt, HashMap.lookup_erase_eq]
  split
  · exact Nat.zero_le _
  · exact le_refl _

/-- What a monitor that is not looking at the circuits has found of the closed ones, and not yet
come to. -/
def MonitorPhase.closedLeft : MonitorPhase → Option (List CircuitId × List (CircuitId × Nat))
  | .retrying ids => some (ids, [])
  | .backingOff id ids | .waiting id _ ids => some (id :: ids, [])
  | _ => none

/-- Two pools with the same budget, the same failures and the same abandoned slots. -/
structure CircuitPool.SameBudget (p q : CircuitPool) : Prop where
  attempts : p.maxRebuildAttempts = q.maxRebuildAttempts
  counts : p.rebuildFailureCounts = q.rebuildFailureCounts
  abandoned : p.abandonedSlots = q.abandonedSlots

namespace PoolState

/-- A circuit on the heap is closed. -/
def ClosedAt (s : PoolState) (k : Nat) : Prop :=
  ∃ t, s.heap[k]? = some t ∧ t.circuit.state = .closed

/-- The pool holds a circuit, and it is closed: the next pass of the monitor finds it. -/
def HoldsClosed (s : PoolState) (id : CircuitId) : Prop :=
  ∃ k, s.pool.circuits.lookup id = some k ∧ s.ClosedAt k

/-- A replacement for a circuit is being built right now. -/
def Replacing (s : PoolState) (id : CircuitId) : Prop :=
  ∃ caller new, s.lock = some (.building (.replace caller id) new)

/-- The circuit is retried: the pool holds it closed or is replacing it, the slot is not
abandoned, and the monitor waits as long as the number of failures says. -/
structure Retried (s : PoolState) (id : CircuitId) (failed : Nat) : Prop where
  found : s.HoldsClosed id ∨ s.Replacing id
  kept : s.pool.isAbandoned id = false
  waits : s.pool.backoff id = min 60 (5 * 2 ^ failed)

/-- If the monitor is at the end of its search, the circuit is among those it has found. -/
def Collected (s : PoolState) (id : CircuitId) : Prop :=
  ∀ ids, s.lock = some (.findingClosed [] ids) → id ∈ ids

/-- The monitor is not in the middle of its search for closed circuits. -/
def NotSearching (s : PoolState) : Prop := ∀ todo ids, s.lock ≠ some (.findingClosed todo ids)

/-- What the monitor has found of the closed circuits and what it is still to look at, from its
scan until the end of the round. -/
def closedLeft (s : PoolState) : Option (List CircuitId × List (CircuitId × Nat)) :=
  match s.lock with
  | some (.findingClosed todo ids) => some (ids, todo)
  | _ => s.monitor.closedLeft

/-- The monitor has found a circuit and comes to it yet. -/
def Due (s : PoolState) (id : CircuitId) : Prop := ∃ ids, s.closedLeft = some (ids, []) ∧ id ∈ ids

/-- When the monitor waits before it replaces a circuit, it waits so many seconds. -/
def WaitsFor (s : PoolState) (id : CircuitId) (secs : Nat) : Prop :=
  ∀ n rest, s.monitor = .waiting id n rest → n = secs

/-- The monitor has waited so many seconds and calls `replace_circuit`. -/
def CallsAfter (id : CircuitId) (secs : Nat) (s : PoolState) (e : PoolEvent) : Prop :=
  e = .replaces none id ∧ ∃ rest, s.monitor = .waiting id secs rest

/-- The steps that honour the budget: a build that fails for a replacement is the last one
that the budget allows, the cleanup of dirty circuits removes none that has closed, and
no circuit takes the id of one in the pool. -/
def HonoursBudget (s : PoolState) : PoolEvent → Prop
  | .fails (.replace _ failedId) => s.pool.maxRebuildAttempts ≤ s.pool.failures failedId + 1
  | .works none => ∀ id ids, s.monitor = .cleaning (id :: ids) → s.lock = none → ¬ s.HoldsClosed id
  | .builds purpose _ _ => ∀ id, s.lock = some (.building purpose id) →
      s.pool.circuits.lookup id = none
  | _ => True

/-- A search that is going on has found the circuit, or comes to it yet. -/
def Listed (s : PoolState) (id : CircuitId) : Prop :=
  ∀ todo ids, s.lock = some (.findingClosed todo ids) →
    id ∈ ids ∨ ∃ k, (id, k) ∈ todo ∧ s.ClosedAt k

section

variable {s s' : PoolState} {id : CircuitId}

/-- A circuit that is closed stays closed on the heap. -/
theorem ClosedAt.setTask {k : Nat} (h : s.ClosedAt k) {j : Nat} {t t' : CircuitTask}
    (htask : s.heap[j]? = some t)
    (hclosed : t.circuit.state = .closed → t'.circuit.state = .closed) :
    (s.setTask j t').ClosedAt k := by
  obtain ⟨u, hu, hstate⟩ := h
  rw [ClosedAt, PoolState.setTask, List.getElem?_set]
  split
  · next heq =>
    subst heq
    rw [htask] at hu
    cases hu
    have hlt : j < s.heap.length := (List.getElem?_eq_some_iff.mp htask).1
    exact ⟨t', by rw [if_pos hlt], hclosed hstate⟩
  · exact ⟨u, hu, hstate⟩

/-- A step of a circuit keeps what is known of a closed one. -/
theorem Listed.setTask (h : s.Listed id) {j : Nat} {t t' : CircuitTask}
    (htask : s.heap[j]? = some t)
    (hclosed : t.circuit.state = .closed → t'.circuit.state = .closed) :
    (s.setTask j t').Listed id := by
  intro todo ids hlock
  rcases h todo ids hlock with hmem | ⟨k, hmem, hat⟩
  · exact Or.inl hmem
  · exact Or.inr ⟨k, hmem, hat.setTask htask hclosed⟩

theorem HoldsClosed.setTask (h : s.HoldsClosed id) {j : Nat} {t t' : CircuitTask}
    (htask : s.heap[j]? = some t)
    (hclosed : t.circuit.state = .closed → t'.circuit.state = .closed) :
    (s.setTask j t').HoldsClosed id := by
  obtain ⟨k, hlookup, hat⟩ := h
  exact ⟨k, hlookup, hat.setTask htask hclosed⟩

/-- Whoever gives the lock back leaves the circuit where it is. -/
theorem HoldsClosed.unlocks (h : s.HoldsClosed id) (hunlocks : Unlocks s s') :
    s'.HoldsClosed id := by
  obtain ⟨k, hlookup, hat⟩ := h
  refine ⟨k, ?_, ?_⟩
  · rw [hunlocks.circuits, hlookup]
  · rwa [ClosedAt, hunlocks.heap]

/-- A circuit that leaves the pool leaves the others there. -/
theorem HoldsClosed.remove (h : s.HoldsClosed id) {other : CircuitId} (hne : id ≠ other)
    (hcircuits : s'.pool.circuits = s.pool.circuits.erase other) (hheap : s'.heap = s.heap) :
    s'.HoldsClosed id := by
  obtain ⟨k, hlookup, hat⟩ := h
  refine ⟨k, ?_, ?_⟩
  · rw [hcircuits, HashMap.lookup_erase_eq, if_neg hne, hlookup]
  · rwa [ClosedAt, hheap]

/-- A circuit that joins the pool under a new id leaves the others there. -/
theorem HoldsClosed.addCircuit (h : s.HoldsClosed id) {new : CircuitId}
    (hnew : s.pool.circuits.lookup new = none) (onionKeys : OnionKeys) (now : Nat) :
    (s.addCircuit new onionKeys now).HoldsClosed id := by
  obtain ⟨k, hlookup, t, htask, hstate⟩ := h
  have hne : id ≠ new := by
    rintro rfl
    rw [hnew] at hlookup
    cases hlookup
  refine ⟨k, ?_, t, ?_, hstate⟩
  · rw [PoolState.addCircuit, CircuitPool.insertCircuit, HashMap.lookup_insert_eq, if_neg hne,
      hlookup]
  · have hlt := (List.getElem?_eq_some_iff.mp htask).1
    rw [PoolState.addCircuit, List.getElem?_append_left hlt, htask]

/-- A list that no search builds is in order. -/
theorem listed_of_lock (hlock : ∀ todo ids, s.lock ≠ some (.findingClosed todo ids)) :
    s.Listed id := fun todo ids h => absurd h (hlock todo ids)

/-- Replacing a circuit takes only that one out of the pool. -/
theorem HoldsClosed.startReplace (h : s.HoldsClosed id) (caller : Option Nat)
    (failedId : CircuitId) :
    (s.startReplace caller failedId).HoldsClosed id ∨
      (s.startReplace caller failedId).Replacing id := by
  by_cases hne : id = failedId
  · subst hne
    exact Or.inr ⟨caller, _, rfl⟩
  · exact Or.inl (h.remove hne rfl rfl)

/-! ## What the pool has counted -/

/-- What the pool knows after a history: it counts no failure that has not been, and it
abandons a slot only when the budget of `budget` failures is used up. -/
structure Counted (s : PoolState) (budget : Nat) (id : CircuitId) (es : List PoolEvent) :
    Prop where
  attempts : s.pool.maxRebuildAttempts = budget
  failures : s.pool.failures id ≤ failedCalls id es
  abandoned : s.pool.isAbandoned id = true → budget ≤ failedCalls id es

/-- `initialize` does not touch the budget. -/
theorem sameBudget_initialized (pool : CircuitPool) (built : List (OnionKeys × Nat)) :
    (initialized pool built).pool.SameBudget pool := by
  induction built using List.reverseRecOn with
  | nil => exact ⟨rfl, rfl, rfl⟩
  | append_singleton built last ih =>
      rw [initialized, List.foldl_append]
      exact ⟨ih.attempts, ih.counts, ih.abandoned⟩

/-- What the pool has counted after `initialize`. -/
theorem counted_of_started (hstart : s.Started) (id : CircuitId) :
    s.Counted s.pool.maxRebuildAttempts id [] := by
  obtain ⟨pool, built, -, -, hcounts, habandoned, -, rfl⟩ := hstart
  have hsame := sameBudget_initialized pool built
  refine ⟨rfl, ?_, ?_⟩
  · rw [CircuitPool.failures, hsame.counts, hcounts]
    exact Nat.zero_le _
  · intro hmem
    rw [CircuitPool.isAbandoned, hsame.abandoned, habandoned] at hmem
    exact absurd (of_decide_eq_true hmem) (Finset.notMem_empty id)

/-- After `initialize` nobody holds the lock. -/
theorem monitorHolds_of_started (hstart : s.Started) : s.MonitorHolds := by
  obtain ⟨pool, built, -, -, -, -, -, rfl⟩ := hstart
  apply MonitorHolds.of_free
  induction built using List.reverseRecOn with
  | nil => rfl
  | append_singleton built last ih =>
      rw [initialized, List.foldl_append]
      exact ih

/-! ## Steps that honour the budget -/

variable [Primitives]

/-- Only the end of `replace_circuit` touches the budget. -/
theorem budget_step {e : PoolEvent} (hstep : Step s e s') :
    ((∀ id, e.outcomeFor id = none) ∧ s'.pool.SameBudget s.pool) ∨
      (∃ caller failedId onionKeys now, e = .builds (.replace caller failedId) onionKeys now ∧
        s'.pool.SameBudget (s.pool.rebuilt failedId)) ∨
      ∃ caller failedId, e = .fails (.replace caller failedId) ∧
        s'.pool.SameBudget (s.pool.rebuildFailed failedId) := by
  cases hstep with
  | expires hlock =>
      refine Or.inl ⟨fun _ => rfl, ?_⟩
      rcases expireNext_cases hlock with ⟨todo, heq⟩ | ⟨k, t, -, -, -, heq⟩
      · rw [heq]
        exact ⟨rfl, rfl, rfl⟩
      · rw [heq]
        exact ⟨rfl, rfl, rfl⟩
  | @picks h id count hlock =>
      refine Or.inl ⟨fun _ => rfl, ?_⟩
      rcases s.pick_cases h id with heq | ⟨k, -, heq⟩
      · rw [heq]
        exact ⟨rfl, rfl, rfl⟩
      · rw [heq]
        exact ⟨rfl, rfl, rfl⟩
  | @builds purpose id onionKeys now hlock =>
      cases purpose with
      | aged | select => exact Or.inl ⟨fun _ => rfl, rfl, rfl, rfl⟩
      | replace caller failedId =>
          refine Or.inr (Or.inl ⟨caller, failedId, onionKeys, now, rfl, ?_⟩)
          cases caller <;> exact ⟨rfl, rfl, rfl⟩
  | @fails purpose id hlock =>
      cases purpose with
      | aged | select => exact Or.inl ⟨fun _ => rfl, rfl, rfl, rfl⟩
      | replace caller failedId =>
          refine Or.inr (Or.inr ⟨caller, failedId, rfl, ?_⟩)
          cases caller <;> exact ⟨rfl, rfl, rfl⟩
  | _ => exact Or.inl ⟨fun _ => rfl, rfl, rfl, rfl⟩

/-- An abandoned slot stays abandoned. -/
theorem isAbandoned_step {e : PoolEvent} (habandoned : s.pool.isAbandoned id = true)
    (hstep : Step s e s') : s'.pool.isAbandoned id = true := by
  have hmem : id ∈ s.pool.abandonedSlots := of_decide_eq_true habandoned
  apply decide_eq_true
  rcases budget_step hstep with ⟨-, hsame⟩ | ⟨-, failedId, -, -, -, hsame⟩ |
    ⟨-, failedId, -, hsame⟩
  · rwa [hsame.abandoned]
  · rwa [hsame.abandoned]
  · rw [hsame.abandoned, CircuitPool.rebuildFailed]
    dsimp only
    split
    · exact Finset.mem_insert_of_mem hmem
    · exact hmem

/-- A replacement that is being built goes on until the call ends. -/
theorem Replacing.keeps {e : PoolEvent} (h : s.Replacing id) (hgoes : e.outcomeFor id = none)
    (hstep : Step s e s') : s'.Replacing id := by
  obtain ⟨caller, new, hreplacing⟩ := h
  have hother : ∀ {hold : PoolHold}, s.lock = some hold →
      hold = .building (.replace caller id) new := by
    intro hold hlock
    rw [hreplacing] at hlock
    exact (Option.some.inj hlock).symm
  have hheld : s.lock ≠ none := by rw [hreplacing]; simp
  cases hstep with
  | reads | registers | sends | cleansUp | breaks | inspects => exact ⟨caller, new, hreplacing⟩
  | wakes _ _ hlock _
  | rebuilds _ hlock
  | findsDirty _ hlock _
  | cleans _ hlock
  | findsClosed _ hlock _
  | checks _ hlock
  | backsOff _ hlock
  | retries _ hlock
  | rests _ hlock
  | selects _ hlock _
  | replaces _ hlock => exact absurd hlock hheld
  | expires hlock
  | expired hlock
  | looksDirty hlock _
  | counts hlock _
  | foundDirty hlock
  | looksClosed hlock _
  | foundClosed hlock
  | looksReady hlock _
  | picks hlock
  | finds hlock => cases hother hlock
  | builds onionKeys now hlock =>
      cases hother hlock
      simp [PoolEvent.outcomeFor] at hgoes
  | fails hlock =>
      cases hother hlock
      simp [PoolEvent.outcomeFor] at hgoes

/-- A replacement that is being built goes on, or it fails for good. -/
theorem Replacing.step {e : PoolEvent} (h : s.Replacing id) (hhonours : s.HonoursBudget e)
    (hnot : e.replacesFor id = false) (hstep : Step s e s') :
    s'.Replacing id ∨ s'.pool.isAbandoned id = true := by
  cases hends : e.outcomeFor id with
  | none => exact Or.inl (h.keeps hends hstep)
  | some ok =>
      right
      rcases budget_step hstep with ⟨hnone, -⟩ | ⟨caller, failedId, onionKeys, now, rfl, -⟩ |
        ⟨caller, failedId, rfl, hsame⟩
      · cases (hnone id).symm.trans hends
      · have hne : failedId ≠ id := by simpa [PoolEvent.replacesFor] using hnot
        simp [PoolEvent.outcomeFor, hne] at hends
      · obtain rfl : failedId = id := by
          by_contra hne
          simp [PoolEvent.outcomeFor, hne] at hends
        have hslots : s'.pool.abandonedSlots = insert failedId s.pool.abandonedSlots :=
          hsame.abandoned.trans (if_pos hhonours)
        exact decide_eq_true (hslots ▸ Finset.mem_insert_self failedId _)

/-- A closed circuit of the pool stays there until it is replaced. -/
theorem HoldsClosed.step {e : PoolEvent} (h : s.HoldsClosed id) (hhonours : s.HonoursBudget e)
    (hstep : Step s e s') : s'.HoldsClosed id ∨ s'.Replacing id := by
  cases hstep with
  | reads htask hreader hstep => exact Or.inl (h.setTask htask hstep.closed)
  | expires hlock =>
      left
      rcases expireNext_cases hlock with ⟨todo, heq⟩ | ⟨k, t, -, htask, hready, heq⟩
      · rw [heq]
        exact h
      · rw [heq]
        apply h.setTask htask
        intro hclosed
        rw [hready] at hclosed
        cases hclosed
  | @cleans other ids hmonitor hlock =>
      have hkept : ¬ s.HoldsClosed other := hhonours other ids hmonitor hlock
      have hne : id ≠ other := fun heq => hkept (heq ▸ h)
      exact Or.inl (h.remove hne rfl rfl)
  | retries hmonitor hlock => exact h.startReplace (s := { s with monitor := _ }) none _
  | @replaces handler other hhandler hlock =>
      exact h.startReplace (s := s.setHandler handler .holding) (some handler) other
  | picks hlock => exact Or.inl (h.unlocks (s.unlocks_pick _ _))
  | registers hhandler htask =>
      have hset : ∀ {k t}, s.heap[k]? = some t → (s.setTask k t.openStream).HoldsClosed id :=
        fun htask => h.setTask htask fun hclosed => hclosed
      exact Or.inl (hset htask)
  | sends hhandler htask hstep => exact Or.inl (h.setTask htask hstep.closed)
  | cleansUp ok hhandler htask hstep =>
      exact Or.inl (h.setTask htask hstep.closed)
  | @builds purpose new onionKeys now hlock =>
      have hadded := h.addCircuit (hhonours new hlock) onionKeys now
      exact Or.inl (hadded.unlocks (s.unlocks_finishBuild purpose new onionKeys now))
  | @fails purpose new hlock => exact Or.inl (h.unlocks (s.unlocks_failBuild purpose))
  | _ => exact Or.inl h

/-- A search that begins or goes on while the pool holds the circuit closed does not miss
it. -/
theorem Listed.step {e : PoolEvent} (h : s.Listed id) (hheld : s.HoldsClosed id)
    (hstep : Step s e s') : s'.Listed id := by
  cases hstep with
  | reads htask hreader hstep => exact h.setTask htask hstep.closed
  | sends hhandler htask hstep => exact h.setTask htask hstep.closed
  | cleansUp ok hhandler htask hstep => exact h.setTask htask hstep.closed
  | @registers handler k t hhandler htask =>
      have hset : (s.setTask k t.openStream).Listed id := h.setTask htask fun hclosed => hclosed
      exact hset
  | breaks | inspects => exact h
  | @findsClosed todo hmonitor hlock htodo =>
      intro todo' ids' hlock'
      cases hlock'
      obtain ⟨k, hlookup, hat⟩ := hheld
      exact Or.inr ⟨k, htodo.mem_iff.mpr (HashMap.mem_pairs.mpr hlookup), hat⟩
  | @looksClosed other k todo ids t hlock htask =>
      intro todo' ids' hlock'
      cases hlock'
      rcases h _ _ hlock with hmem | ⟨j, hmem, hat⟩
      · left
        split
        · exact List.mem_append_left _ hmem
        · exact hmem
      · rcases List.mem_cons.mp hmem with heq | hmem
        · -- the circuit that is looked at is the one
          cases heq
          obtain ⟨u, hu, hstate⟩ := hat
          rw [htask] at hu
          cases hu
          left
          rw [if_pos hstate]
          exact List.mem_append_right _ (List.mem_singleton_self _)
        · exact Or.inr ⟨j, hmem, hat⟩
  | expires hlock =>
      apply listed_of_lock
      intro todo ids
      rcases expireNext_cases hlock with ⟨todo', heq⟩ | ⟨k, t, -, -, -, heq⟩
      · simp [heq]
      · simp [heq]
  | cleans _ hlock
  | checks _ hlock
  | backsOff _ hlock
  | rests _ hlock =>
      apply listed_of_lock
      intro todo ids hsearch
      rw [hlock] at hsearch
      cases hsearch
  | @looksDirty other k todo ids t hlock htask =>
      apply listed_of_lock
      intro todo' ids'
      by_cases hdirty : t.circuit.state = .dirty <;> simp [hdirty]
  | @picks handler other count hlock =>
      apply listed_of_lock
      intro todo ids
      simp [(s.unlocks_pick handler other).lock]
  | @builds purpose new onionKeys now hlock =>
      apply listed_of_lock
      intro todo ids
      simp [(s.unlocks_finishBuild purpose new onionKeys now).lock]
  | @fails purpose new hlock =>
      apply listed_of_lock
      intro todo ids
      simp [(s.unlocks_failBuild purpose).lock]
  | _ => exact listed_of_lock fun todo ids hsearch => by cases hsearch

/-- Every step keeps the count. -/
theorem Counted.step {budget : Nat} {es : List PoolEvent} {e : PoolEvent}
    (h : s.Counted budget id es) (hstep : Step s e s') : s'.Counted budget id (es ++ [e]) := by
  rcases budget_step hstep with ⟨hnone, hsame⟩ | ⟨caller, failedId, onionKeys, now, rfl, hsame⟩ |
    ⟨caller, failedId, rfl, hsame⟩
  · have hfails : e.failsFor id = false := PoolEvent.failsFor_of_outcomeFor (hnone id)
    refine ⟨hsame.attempts.trans h.attempts, ?_, ?_⟩
    · rw [CircuitPool.failures, hsame.counts, failedCalls_snoc, hfails]
      exact h.failures
    · rw [CircuitPool.isAbandoned, hsame.abandoned, failedCalls_snoc, hfails]
      exact h.abandoned
  · refine ⟨hsame.attempts.trans h.attempts, ?_, ?_⟩
    · rw [CircuitPool.failures, hsame.counts, failedCalls_snoc]
      exact le_trans (s.pool.failures_rebuilt_le id failedId) h.failures
    · rw [CircuitPool.isAbandoned, hsame.abandoned, failedCalls_snoc]
      exact h.abandoned
  · have hfailures := h.failures
    have hattempts := h.attempts
    refine ⟨hsame.attempts.trans h.attempts, ?_, ?_⟩
    · rw [CircuitPool.failures, hsame.counts, failedCalls_snoc]
      show (s.pool.rebuildFailed failedId).failures id ≤ _
      rw [CircuitPool.failures_rebuildFailed]
      by_cases heq : id = failedId
      · subst heq
        simpa [PoolEvent.failsFor] using hfailures
      · rw [if_neg heq]
        exact le_trans hfailures (Nat.le_add_right _ _)
    · intro habandoned
      have hmem : id ∈ (s.pool.rebuildFailed failedId).abandonedSlots := by
        rw [← hsame.abandoned]
        exact of_decide_eq_true habandoned
      rw [failedCalls_snoc]
      have hbefore : id ∈ s.pool.abandonedSlots → budget ≤ failedCalls id es :=
        fun hmem => h.abandoned (decide_eq_true hmem)
      rw [CircuitPool.rebuildFailed] at hmem
      dsimp only at hmem
      split at hmem
      · next hused =>
        rcases Finset.mem_insert.mp hmem with rfl | hmem
        · simp only [PoolEvent.failsFor, beq_self_eq_true, if_true]
          omega
        · exact le_trans (hbefore hmem) (Nat.le_add_right _ _)
      · exact le_trans (hbefore hmem) (Nat.le_add_right _ _)

/-- Where the budget is honoured, the first call that fails uses it up. -/
theorem failedCalls_of_honoursBudget (id : CircuitId) {s₀ : PoolState} {es : List PoolEvent}
    (hstart : s₀.Started) (hrun : (system.restrict HonoursBudget).Run s₀ es s) :
    s.Counted s₀.pool.maxRebuildAttempts id es ∧
      (failedCalls id es = 0 ∨ s.pool.isAbandoned id = true) := by
  refine hrun.invariant_history (fun s es => s.Counted s₀.pool.maxRebuildAttempts id es ∧
    (failedCalls id es = 0 ∨ s.pool.isAbandoned id = true))
    ⟨counted_of_started hstart id, Or.inl rfl⟩ ?_
  rintro s es e t - ⟨hcounted, hcalls⟩ ⟨hhonours, hstep⟩
  refine ⟨hcounted.step hstep, ?_⟩
  rcases hcalls with hzero | habandoned
  · by_cases hfails : e.failsFor id = true
    · right
      rcases budget_step hstep with ⟨hnone, -⟩ | ⟨caller, other, onionKeys, now, rfl, -⟩ |
        ⟨caller, failedId, rfl, hsame⟩
      · rw [PoolEvent.failsFor_of_outcomeFor (hnone id)] at hfails
        cases hfails
      · cases hfails
      · obtain rfl : failedId = id := beq_iff_eq.mp hfails
        have hslots : t.pool.abandonedSlots = insert failedId s.pool.abandonedSlots :=
          hsame.abandoned.trans (if_pos hhonours)
        exact decide_eq_true (hslots ▸ Finset.mem_insert_self failedId _)
    · left
      rw [failedCalls_snoc, if_neg hfails, hzero]
  · exact Or.inr (isAbandoned_step habandoned hstep)

/-- Where the budget is honoured, the backoff of a slot that is not abandoned is that of no
failure, which is what the calls say that have failed. -/
theorem backoff_of_honoursBudget {s₀ : PoolState} {es : List PoolEvent} (hstart : s₀.Started)
    (hrun : (system.restrict HonoursBudget).Run s₀ es s) (hkept : s.pool.isAbandoned id = false) :
    failedCalls id es = 0 ∧ s.pool.backoff id = min 60 (5 * 2 ^ failedCalls id es) := by
  obtain ⟨hcounted, hcalls⟩ := failedCalls_of_honoursBudget id hstart hrun
  have hzero : failedCalls id es = 0 := by
    refine hcalls.resolve_right ?_
    rw [hkept]
    exact Bool.false_ne_true
  have hfailures : s.pool.failures id = 0 := by
    have hle := hcounted.failures
    omega
  refine ⟨hzero, ?_⟩
  rw [CircuitPool.backoff, hfailures, hzero]
  rfl

/-! ## What the monitor does with the circuits it has found -/

omit [Primitives] in
/-- While the monitor is not searching, its phase says what it has found. -/
theorem closedLeft_of_notSearching (hsearch : s.NotSearching) :
    s.closedLeft = s.monitor.closedLeft := by
  rw [closedLeft]
  split
  · next todo ids hlock => exact absurd hlock (hsearch todo ids)
  · rfl

omit [Primitives] in
/-- A free lock is held by no search. -/
theorem notSearching_of_free (hlock : s.lock = none) : s.NotSearching := by
  intro todo ids hheld
  rw [hlock] at hheld
  cases hheld

omit [Primitives] in
/-- Nothing is due while the monitor is busy with something else. -/
theorem not_due {phase : MonitorPhase} (hsearch : s.NotSearching) (hmonitor : s.monitor = phase)
    (hphase : phase.closedLeft = none) : ¬ s.Due id := by
  rintro ⟨ids, hleft, -⟩
  rw [closedLeft_of_notSearching hsearch, hmonitor, hphase] at hleft
  cases hleft

omit [Primitives] in
/-- Nothing is due when the monitor sleeps. -/
theorem not_due_of_sleeping (hholding : s.MonitorHolds) (hmonitor : s.monitor = .sleeping) :
    ¬ s.Due id := by
  refine not_due ?_ hmonitor rfl
  intro todo ids hlock
  cases hmonitor.symm.trans (hholding _ hlock rfl)

omit [Primitives] in
/-- What is due stays so while the monitor stays where it is. -/
theorem Due.others (h : s.Due id) (hsearch : s.NotSearching) (hsearch' : s'.NotSearching)
    (hmonitor : s'.monitor = s.monitor) : s'.Due id := by
  obtain ⟨ids, hleft, hmem⟩ := h
  refine ⟨ids, ?_, hmem⟩
  rw [closedLeft_of_notSearching hsearch', hmonitor, ← closedLeft_of_notSearching hsearch, hleft]

/-- A circuit that is due stays so until the monitor calls `replace_circuit` for it. -/
theorem Due.step {e : PoolEvent} (h : s.Due id) (hholding : s.MonitorHolds)
    (hkept : s.pool.isAbandoned id = false) (hstep : Step s e s') :
    s'.Due id ∨ ∃ secs, CallsAfter id secs s e := by
  have hheld : ∀ {hold : PoolHold}, s.lock = some hold →
      (∀ todo ids, hold ≠ .findingClosed todo ids) → s.NotSearching := by
    intro hold hlock hother todo ids hsearch
    rw [hlock] at hsearch
    exact hother todo ids (Option.some.inj hsearch)
  have hfree : ∀ {u : PoolState}, u.lock = none → u.NotSearching := notSearching_of_free
  cases hstep with
  | reads | registers | sends | cleansUp | breaks | inspects => exact Or.inl h
  | wakes _ hmonitor hlock
  | rebuilds hmonitor hlock
  | findsDirty hmonitor hlock
  | cleans hmonitor hlock
  | findsClosed hmonitor hlock => exact absurd h (not_due (hfree hlock) hmonitor rfl)
  | expires hlock
  | expired hlock
  | looksDirty hlock
  | counts hlock
  | foundDirty hlock =>
      exact absurd h (not_due (hheld hlock (by simp)) (hholding _ hlock rfl) rfl)
  | looksClosed hlock =>
      obtain ⟨ids, hleft, -⟩ := h
      rw [closedLeft, hlock] at hleft
      cases hleft
  | @foundClosed found hlock =>
      obtain ⟨ids, hleft, hmem⟩ := h
      rw [closedLeft, hlock] at hleft
      cases hleft
      exact Or.inl ⟨found, rfl, hmem⟩
  | @checks other rest hmonitor hlock =>
      obtain ⟨ids, hleft, hmem⟩ := h
      rw [closedLeft_of_notSearching (hfree hlock), hmonitor] at hleft
      cases hleft
      left
      by_cases habandoned : s.pool.isAbandoned other = true
      · have hne : id ≠ other := by
          rintro rfl
          rw [hkept] at habandoned
          cases habandoned
        refine ⟨rest, ?_, List.mem_of_ne_of_mem hne hmem⟩
        rw [if_pos habandoned]
        exact closedLeft_of_notSearching (hfree hlock)
      · refine ⟨other :: rest, ?_, hmem⟩
        rw [if_neg habandoned]
        exact closedLeft_of_notSearching (hfree hlock)
  | @backsOff other rest hmonitor hlock =>
      obtain ⟨ids, hleft, hmem⟩ := h
      rw [closedLeft_of_notSearching (hfree hlock), hmonitor] at hleft
      cases hleft
      exact Or.inl ⟨other :: rest, closedLeft_of_notSearching (hfree hlock), hmem⟩
  | @retries other secs rest hmonitor hlock =>
      obtain ⟨ids, hleft, hmem⟩ := h
      rw [closedLeft_of_notSearching (hfree hlock), hmonitor] at hleft
      cases hleft
      rcases List.mem_cons.mp hmem with rfl | hlater
      · exact Or.inr ⟨secs, rfl, rest, hmonitor⟩
      · exact Or.inl ⟨rest, rfl, hlater⟩
  | rests hmonitor hlock =>
      obtain ⟨ids, hleft, hmem⟩ := h
      rw [closedLeft_of_notSearching (hfree hlock), hmonitor] at hleft
      cases hleft
      cases hmem
  | selects _ hlock | replaces _ hlock =>
      exact Or.inl (h.others (hfree hlock) (fun _ _ => by simp [startReplace, startBuild]) rfl)
  | looksReady hlock | finds hlock =>
      exact Or.inl (h.others (hheld hlock (by simp)) (fun _ _ => by simp [startBuild]) rfl)
  | @picks handler other count hlock =>
      refine Or.inl (h.others (hheld hlock (by simp))
        (hfree (s.unlocks_pick handler other).lock) ?_)
      rcases s.pick_cases handler other with heq | ⟨k, -, heq⟩
      · rw [heq]
        rfl
      · rw [heq]
        rfl
  | @builds purpose new onionKeys now hlock =>
      have hafter := hfree (s.unlocks_finishBuild purpose new onionKeys now).lock
      cases purpose with
      | aged left => exact absurd h (not_due (hheld hlock (by simp)) (hholding _ hlock rfl) rfl)
      | select handler => exact Or.inl (h.others (hheld hlock (by simp)) hafter rfl)
      | replace caller failedId =>
          cases caller <;> exact Or.inl (h.others (hheld hlock (by simp)) hafter rfl)
  | @fails purpose new hlock =>
      have hafter := hfree (s.unlocks_failBuild purpose).lock
      cases purpose with
      | aged left => exact absurd h (not_due (hheld hlock (by simp)) (hholding _ hlock rfl) rfl)
      | select handler => exact Or.inl (h.others (hheld hlock (by simp)) hafter rfl)
      | replace caller failedId =>
          cases caller <;> exact Or.inl (h.others (hheld hlock (by simp)) hafter rfl)

/-- The monitor begins to wait only for as long as the backoff says. -/
theorem WaitsFor.step {e : PoolEvent} {secs : Nat} (h : s.WaitsFor id secs)
    (hbackoff : s.pool.backoff id = secs) (hstep : Step s e s') : s'.WaitsFor id secs := by
  cases hstep with
  | wakes | expired | rebuilds | findsDirty | foundDirty | cleans | findsClosed | foundClosed
  | retries | rests =>
      intro n rest hwaiting
      cases hwaiting
  | checks =>
      intro n rest hwaiting
      dsimp only at hwaiting
      split at hwaiting <;> cases hwaiting
  | backsOff =>
      intro n rest hwaiting
      cases hwaiting
      exact hbackoff
  | expires hlock =>
      rcases expireNext_cases hlock with ⟨todo, heq⟩ | ⟨k, t, -, -, -, heq⟩
      · rw [heq]
        exact h
      · rw [heq]
        exact h
  | @picks handler other count hlock =>
      rcases s.pick_cases handler other with heq | ⟨k, -, heq⟩
      · rw [heq]
        exact h
      · rw [heq]
        exact h
  | @builds purpose new onionKeys now hlock =>
      cases purpose with
      | aged left =>
          intro n rest hwaiting
          cases hwaiting
      | select handler => exact h
      | replace caller failedId => cases caller <;> exact h
  | @fails purpose new hlock =>
      cases purpose with
      | aged left =>
          intro n rest hwaiting
          cases hwaiting
      | select handler => exact h
      | replace caller failedId => cases caller <;> exact h
  | _ => exact h

/-- The monitor calls `replace_circuit` for a circuit that it has found before it sleeps again,
when it has waited for the backoff, unless the slot is abandoned by then. -/
theorem calls_of_due {later t : PoolState} {pass : List PoolEvent} {secs : Nat}
    (hholding : later.MonitorHolds) (hdue : later.Due id) (hwaits : later.WaitsFor id secs)
    (hbackoff : ∀ es u, (system.restrict HonoursBudget).Run later es u →
      u.pool.isAbandoned id = false → u.pool.backoff id = secs)
    (hrun : (system.restrict HonoursBudget).Run later pass t) (hsleeping : t.monitor = .sleeping)
    (hkept : t.pool.isAbandoned id = false) :
    (system.restrict HonoursBudget).Takes (CallsAfter id secs) later pass t := by
  have hinv : t.pool.isAbandoned id = true ∨
      t.MonitorHolds ∧ t.Due id ∧ t.WaitsFor id secs ∨
        (system.restrict HonoursBudget).Takes (CallsAfter id secs) later pass t := by
    refine hrun.invariant_history (fun u es => u.pool.isAbandoned id = true ∨
      u.MonitorHolds ∧ u.Due id ∧ u.WaitsFor id secs ∨
        (system.restrict HonoursBudget).Takes (CallsAfter id secs) later es u)
      (Or.inr (Or.inl ⟨hholding, hdue, hwaits⟩)) ?_
    intro u es e v hbefore hu hlast
    by_cases habandoned : u.pool.isAbandoned id = true
    · exact Or.inl (isAbandoned_step habandoned hlast.2)
    rw [Bool.not_eq_true] at habandoned
    rcases hu with hlost | ⟨hholds, hstill, hwaiting⟩ | hcalled
    · rw [habandoned] at hlost
      cases hlost
    · rcases hstill.step hholds habandoned hlast.2 with hnext | ⟨n, hevent, rest, hphase⟩
      · exact Or.inr (Or.inl ⟨hholds.step hlast.2, hnext,
          hwaiting.step (hbackoff es u hbefore habandoned) hlast.2⟩)
      · obtain rfl := hwaiting n rest hphase
        exact Or.inr (Or.inr (hbefore.takes_last ⟨hevent, rest, hphase⟩ hlast))
    · exact Or.inr (Or.inr (hcalled.snoc hlast))
  rcases hinv with habandoned | ⟨hholds, hstill, -⟩ | hcalled
  · rw [hkept] at habandoned
    cases habandoned
  · exact absurd hstill (not_due_of_sleeping hholds hsleeping)
  · exact hcalled

/-- A circuit that the pool holds closed is not lost: it is still there, it is being
replaced, or its slot is abandoned. -/
theorem not_lost {mid later : PoolState} {es : List PoolEvent} (hclosed : mid.HoldsClosed id)
    (hrun : (system.restrict HonoursBudget).Run mid es later)
    (hnone : ∀ e ∈ es, e.replacesFor id = false) :
    (later.HoldsClosed id ∧ (mid.NotSearching → later.Listed id)) ∨ later.Replacing id ∨
      later.pool.isAbandoned id = true := by
  revert hnone
  refine hrun.invariant_history (fun s es => (∀ e ∈ es, e.replacesFor id = false) →
    (s.HoldsClosed id ∧ (mid.NotSearching → s.Listed id)) ∨ s.Replacing id ∨
      s.pool.isAbandoned id = true)
    (fun _ => Or.inl ⟨hclosed, fun hmid => listed_of_lock hmid⟩) ?_
  rintro s es e t - ih ⟨hhonours, hstep⟩ hnone
  have hbefore := ih fun e' he' => hnone e' (List.mem_append_left _ he')
  have hlast : e.replacesFor id = false := hnone e (by simp)
  rcases hbefore with ⟨hheld, hlisted⟩ | hreplacing | habandoned
  · rcases hheld.step hhonours hstep with hkept | hreplacing
    · exact Or.inl ⟨hkept, fun hmid => (hlisted hmid).step hheld hstep⟩
    · exact Or.inr (Or.inl hreplacing)
  · exact Or.inr (hreplacing.step hhonours hlast hstep)
  · exact Or.inr (Or.inr (isAbandoned_step habandoned hstep))

end

/-! ## A failure that loses the slot -/

section

open Reference

end

end PoolState

end NoPanic
