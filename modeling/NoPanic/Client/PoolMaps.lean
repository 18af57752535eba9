/-
# The two maps of the pool

The pool keeps its circuits in one map and the times at which they were built in another. A
build adds to both. Expiry removes from the second and leaves the circuit to the cleanup, which
removes from the first. `replace_circuit` removes from the first only: when the failed circuit
still has an age, the record stays for good.

`maps_step` says what a step does to the maps. From it follows that every circuit has its own
place on the heap in every reachable state, and that every age belongs to a circuit of the pool
as long as no circuit is removed that has one.
-/

import NoPanic.Client.PoolBudget

namespace NoPanic

open NoPanic.Math

/-- The age of a circuit, if the pool has a record of it. -/
def CircuitPool.circuitAge (pool : CircuitPool) (id : CircuitId) (now : Nat) : Option Nat :=
  (pool.circuitAges.lookup id).map fun created => now - created

namespace PoolState

/-- The circuits of the pool are on the heap, and each id has its own. -/
structure Owns (s : PoolState) : Prop where
  onHeap : ∀ id k, s.pool.circuits.lookup id = some k → k < s.heap.length
  own : ∀ id id' k, s.pool.circuits.lookup id = some k → s.pool.circuits.lookup id' = some k →
    id = id'

/-- Every age belongs to a circuit of the pool. -/
def AgesHeld (s : PoolState) : Prop := ∀ id ∈ s.pool.circuitAges, id ∈ s.pool.circuits

/-- The circuit that a step takes out of the pool. -/
def removed (s : PoolState) : PoolEvent → Option CircuitId
  | .replaces _ failedId => some failedId
  | .works none =>
      match s.monitor, s.lock with
      | .cleaning (id :: _), none => some id
      | _, _ => none
  | _ => none

/-- The steps that remove no circuit with an age. -/
def KeepsAges (s : PoolState) (e : PoolEvent) : Prop :=
  ∀ id, s.removed e = some id → id ∉ s.pool.circuitAges

/-- What a step does to the maps: nothing, or a circuit expires, or it is removed, or a new one
is added. -/
inductive MapsStep (s : PoolState) (e : PoolEvent) (s' : PoolState) : Prop
  | same (hremoved : s.removed e = none) (hcircuits : s'.pool.circuits = s.pool.circuits)
      (hages : s'.pool.circuitAges = s.pool.circuitAges)
      (hheap : s'.heap.length = s.heap.length)
  | expires (id : CircuitId) (hremoved : s.removed e = none)
      (hcircuits : s'.pool.circuits = s.pool.circuits)
      (hages : s'.pool.circuitAges = s.pool.circuitAges.erase id)
      (hheap : s'.heap.length = s.heap.length)
  | removes (id : CircuitId) (hremoved : s.removed e = some id)
      (hcircuits : s'.pool.circuits = s.pool.circuits.erase id)
      (hages : s'.pool.circuitAges = s.pool.circuitAges)
      (hheap : s'.heap.length = s.heap.length)
  | adds (id : CircuitId) (now : Nat) (hremoved : s.removed e = none)
      (hcircuits : s'.pool.circuits = s.pool.circuits.insert id s.heap.length)
      (hages : s'.pool.circuitAges = s.pool.circuitAges.insert id now)
      (hheap : s'.heap.length = s.heap.length + 1)

/-- A step of a task on a circuit of the heap. -/
theorem length_setTask (s : PoolState) (k : Nat) (t : CircuitTask) :
    (s.setTask k t).heap.length = s.heap.length := List.length_set

/-- Whoever holds the lock removes nothing. -/
theorem removed_of_lock {s : PoolState} {hold : PoolHold} (hlock : s.lock = some hold) :
    s.removed (.works none) = none := by
  rw [removed, hlock]
  split
  · next hfree => cases hfree
  · rfl

/-- The monitor removes something only when it cleans up. -/
theorem removed_of_monitor {s : PoolState}
    (hmonitor : ∀ id ids, s.monitor ≠ .cleaning (id :: ids)) :
    s.removed (.works none) = none := by
  rw [removed]
  split
  · next id ids hcleaning _ => exact absurd hcleaning (hmonitor id ids)
  · rfl

/-- A step that removes nothing keeps all ages. -/
theorem keepsAges_of_removed {s : PoolState} {e : PoolEvent} (hremoved : s.removed e = none) :
    s.KeepsAges e := by
  intro id hid
  rw [hremoved] at hid
  cases hid

/-- A circuit that is added has its own place. -/
theorem Owns.add {s s' : PoolState} (h : s.Owns) {id : CircuitId}
    (hcircuits : s'.pool.circuits = s.pool.circuits.insert id s.heap.length)
    (hheap : s'.heap.length = s.heap.length + 1) : s'.Owns := by
  have hcases : ∀ {other k}, s'.pool.circuits.lookup other = some k →
      other = id ∧ k = s.heap.length ∨
        s.pool.circuits.lookup other = some k ∧ k < s.heap.length := by
    intro other k hlookup
    rw [hcircuits, HashMap.lookup_insert_eq] at hlookup
    split at hlookup
    · next heq => exact Or.inl ⟨heq, (Option.some.inj hlookup).symm⟩
    · exact Or.inr ⟨hlookup, h.onHeap other k hlookup⟩
  refine ⟨?_, ?_⟩
  · intro other k hlookup
    rw [hheap]
    rcases hcases hlookup with ⟨-, rfl⟩ | ⟨-, hlt⟩
    · exact Nat.lt_succ_self _
    · exact Nat.lt_succ_of_lt hlt
  · intro first second k hfirst hsecond
    rcases hcases hfirst with ⟨rfl, rfl⟩ | ⟨hold, hlt⟩
    · rcases hcases hsecond with ⟨rfl, -⟩ | ⟨-, hlt⟩
      · rfl
      · exact absurd hlt (lt_irrefl _)
    · rcases hcases hsecond with ⟨-, rfl⟩ | ⟨hold', -⟩
      · exact absurd hlt (lt_irrefl _)
      · exact h.own first second k hold hold'

/-- So has its age. -/
theorem AgesHeld.add {s s' : PoolState} (h : s.AgesHeld) {id : CircuitId} {k now : Nat}
    (hcircuits : s'.pool.circuits = s.pool.circuits.insert id k)
    (hages : s'.pool.circuitAges = s.pool.circuitAges.insert id now) : s'.AgesHeld := by
  intro other hmem
  rw [hages, AList.mem_insert] at hmem
  rw [hcircuits, AList.mem_insert]
  exact hmem.imp_right (h other)

/-- What `initialize` has built is in both maps, and each circuit has its own place. -/
theorem owns_agesHeld_of_started {s : PoolState} (hstart : s.Started) : s.Owns ∧ s.AgesHeld := by
  obtain ⟨pool, built, hcircuits, hages, -, -, -, rfl⟩ := hstart
  induction built using List.reverseRecOn with
  | nil =>
      have hnone : (initialized pool []).pool.circuits = ∅ := hcircuits
      have hnoAge : (initialized pool []).pool.circuitAges = ∅ := hages
      refine ⟨⟨?_, ?_⟩, ?_⟩
      · intro id k hlookup
        rw [hnone] at hlookup
        cases hlookup
      · intro first second k hfirst
        rw [hnone] at hfirst
        cases hfirst
      · intro id hmem
        rw [hnoAge] at hmem
        exact absurd hmem (AList.notMem_empty id)
  | append_singleton built last ih =>
      obtain ⟨howns, hheld⟩ := ih
      rw [initialized, List.foldl_append]
      refine ⟨howns.add rfl ?_, hheld.add rfl rfl⟩
      exact List.length_append.trans rfl

section

variable [Primitives] {s s' : PoolState} {e : PoolEvent}

/-- The maps after any step. -/
theorem maps_step (hstep : Step s e s') : s.MapsStep e s' := by
  have hholder : ∀ {hold}, s.lock = some hold → s.removed (.works none) = none := removed_of_lock
  cases hstep with
  | @reads k e t t' htask hreader hstep => exact .same rfl rfl rfl (s.length_setTask k t')
  | @registers handler k t hhandler htask =>
      exact .same rfl rfl rfl (s.length_setTask k t.openStream)
  | @sends handler k streamId command data entryWriter t t' hhandler htask hstep =>
      exact .same rfl rfl rfl (s.length_setTask k t')
  | @cleansUp handler k streamId t t' ok hhandler htask hstep =>
      exact .same rfl rfl rfl (s.length_setTask k t')
  | @expires id todo agedOut hlock =>
      rcases expireNext_cases hlock with ⟨todo', heq⟩ | ⟨k, t, -, -, -, heq⟩
      · rw [heq]
        exact .same (hholder hlock) rfl rfl rfl
      · rw [heq]
        exact .expires id (hholder hlock) rfl rfl (s.length_setTask k t.expire)
  | @cleans id ids hmonitor hlock =>
      have hremoved : s.removed (.works none) = some id := by rw [removed, hmonitor, hlock]
      exact .removes id hremoved rfl rfl rfl
  | @retries id secs ids hmonitor hlock => exact .removes id rfl rfl rfl rfl
  | @replaces handler id hhandler hlock => exact .removes id rfl rfl rfl rfl
  | @picks handler id count hlock =>
      have hunlocks := s.unlocks_pick handler id
      exact .same rfl hunlocks.circuits hunlocks.circuitAges (by rw [hunlocks.heap])
  | @builds purpose id onionKeys now hlock =>
      have hunlocks := s.unlocks_finishBuild purpose id onionKeys now
      refine .adds id now rfl hunlocks.circuits hunlocks.circuitAges ?_
      rw [hunlocks.heap, addCircuit, List.length_append, List.length_singleton]
  | @fails purpose id hlock =>
      have hunlocks := s.unlocks_failBuild purpose
      exact .same rfl hunlocks.circuits hunlocks.circuitAges (by rw [hunlocks.heap])
  | expired hlock
  | looksDirty hlock
  | counts hlock
  | foundDirty hlock
  | looksClosed hlock
  | foundClosed hlock => exact .same (hholder hlock) rfl rfl rfl
  | rebuilds hmonitor
  | findsDirty hmonitor
  | findsClosed hmonitor
  | checks hmonitor
  | backsOff hmonitor
  | rests hmonitor =>
      have hremoved : s.removed (.works none) = none := by
        apply removed_of_monitor
        simp [hmonitor]
      exact .same hremoved rfl rfl rfl
  | _ => exact .same rfl rfl rfl rfl

/-- What the pool holds under an id after a step, it held before, unless it is new. -/
theorem lookup_step (hstep : Step s e s') {id : CircuitId} {k : Nat}
    (hlookup : s'.pool.circuits.lookup id = some k) :
    s.pool.circuits.lookup id = some k ∨ k = s.heap.length := by
  cases maps_step hstep with
  | same hremoved hcircuits => exact Or.inl (hcircuits ▸ hlookup)
  | expires other hremoved hcircuits => exact Or.inl (hcircuits ▸ hlookup)
  | removes other hremoved hcircuits =>
      rw [hcircuits, HashMap.lookup_erase_eq] at hlookup
      split at hlookup
      · cases hlookup
      · exact Or.inl hlookup
  | adds other now hremoved hcircuits =>
      rw [hcircuits, HashMap.lookup_insert_eq] at hlookup
      split at hlookup
      · exact Or.inr (Option.some.inj hlookup).symm
      · exact Or.inl hlookup

/-! ## Every circuit has its own place -/

/-- Every step keeps the circuits apart. -/
theorem Owns.step (h : s.Owns) (hstep : Step s e s') : s'.Owns := by
  cases maps_step hstep with
  | same hremoved hcircuits hages hheap =>
      exact ⟨hcircuits ▸ hheap ▸ h.onHeap, hcircuits ▸ h.own⟩
  | expires id hremoved hcircuits hages hheap =>
      exact ⟨hcircuits ▸ hheap ▸ h.onHeap, hcircuits ▸ h.own⟩
  | removes id hremoved hcircuits hages hheap =>
      have hkept : ∀ {other k}, s'.pool.circuits.lookup other = some k →
          s.pool.circuits.lookup other = some k := by
        intro other k hlookup
        rw [hcircuits, HashMap.lookup_erase_eq] at hlookup
        split at hlookup
        · cases hlookup
        · exact hlookup
      refine ⟨?_, ?_⟩
      · intro other k hlookup
        rw [hheap]
        exact h.onHeap other k (hkept hlookup)
      · intro first second k hfirst hsecond
        exact h.own first second k (hkept hfirst) (hkept hsecond)
  | adds id now hremoved hcircuits hages hheap => exact h.add hcircuits hheap

/-! ## Every age belongs to a circuit -/

/-- A step keeps the ages with their circuits exactly when it removes no circuit that has
one. -/
theorem agesHeld_step_iff (h : s.AgesHeld) (hstep : Step s e s') :
    s'.AgesHeld ↔ s.KeepsAges e := by
  cases maps_step hstep with
  | same hremoved hcircuits hages hheap =>
      apply iff_of_true _ (keepsAges_of_removed hremoved)
      rwa [AgesHeld, hcircuits, hages]
  | expires id hremoved hcircuits hages hheap =>
      apply iff_of_true _ (keepsAges_of_removed hremoved)
      intro other hmem
      rw [hages, AList.mem_erase] at hmem
      rw [hcircuits]
      exact h other hmem.2
  | adds id now hremoved hcircuits hages hheap =>
      exact iff_of_true (h.add hcircuits hages) (keepsAges_of_removed hremoved)
  | removes id hremoved hcircuits hages hheap =>
      constructor
      · intro hafter removed hid hmem
        rw [hremoved] at hid
        cases hid
        have hheld := hafter id (by rwa [hages])
        rw [hcircuits, AList.mem_erase] at hheld
        exact hheld.1 rfl
      · intro hkeeps other hmem
        rw [hages] at hmem
        rw [hcircuits, AList.mem_erase]
        refine ⟨?_, h other hmem⟩
        rintro rfl
        exact hkeeps other hremoved hmem

/-- In every reachable state each circuit of the pool has its own place on the heap. -/
theorem owns_of_reachable (hreach : system.Reachable s) : s.Owns := by
  apply hreach.invariant Owns
  · intro start hstart
    exact (owns_agesHeld_of_started hstart).1
  · intro s e s' howns hstep
    exact howns.step hstep

/-- In a run after `initialize` that removes no circuit with an age, every age belongs to a
circuit of the pool. So the pool knows no age of a circuit that it does not hold, and it keeps
no more ages than circuits. -/
theorem agesHeld_of_keepsAges {s₀ : PoolState} (hstart : s₀.Started) {es : List PoolEvent}
    (hrun : (system.restrict KeepsAges).Run s₀ es s) :
    (∀ id ∈ s.pool.circuitAges, id ∈ s.pool.circuits) ∧
      (∀ id now, id ∉ s.pool.circuits → s.pool.circuitAge id now = none) ∧
      s.pool.circuitAges.keys.length ≤ s.pool.circuits.keys.length := by
  have hheld : s.AgesHeld := by
    apply hrun.invariant AgesHeld
    · exact (owns_agesHeld_of_started hstart).2
    · intro s e s' hheld hstep
      exact (agesHeld_step_iff hheld hstep.2).mpr hstep.1
  refine ⟨hheld, ?_, ?_⟩
  · intro id now hnot
    have hnone : s.pool.circuitAges.lookup id = none :=
      AList.lookup_eq_none.mpr fun hmem => hnot (hheld id hmem)
    rw [CircuitPool.circuitAge, hnone, Option.map_none]
  · have hsubset : s.pool.circuitAges.keys ⊆ s.pool.circuits.keys := fun id hmem => hheld id hmem
    exact (List.subperm_of_subset s.pool.circuitAges.keys_nodup hsubset).length_le

end

/-! ## Replacing a circuit keeps its age -/

section

open Reference

/-- The one circuit of a pool closes and is replaced: the pool holds one circuit and two
ages. -/
theorem not_agesHeld_replaced :
    ¬ ∀ s : PoolState, system.Reachable s →
      (∀ id ∈ s.pool.circuitAges, id ∈ s.pool.circuits) ∧
        (∀ id now, id ∉ s.pool.circuits → s.pool.circuitAge id now = none) ∧
        s.pool.circuitAges.keys.length ≤ s.pool.circuits.keys.length := by
  intro hclaim
  let built : CircuitTask := CircuitTask.spawn (Circuit.built 1 (OnionKeys.new [] []))
  let opened := (onePool.setTask 0 built.openStream).setHandler 0 (.streaming 0 1)
  let closed := built.openStream.endStream
  let ended := opened.setTask 0 closed
  let called := (ended.setHandler 0 .holding).startReplace (some 0) 1
  let replaced := called.finishBuild (.replace (some 0) 1) 2 (OnionKeys.new [] []) 7
  have hpairs : onePool.pool.circuits.pairs = [(1, 0)] := rfl
  have hopens := run_opens (s := onePool) (h := 0) (t := built) rfl rfl hpairs rfl rfl
  have hends : Step opened (.reads 0 .ends) ended :=
    .reads (t := built.openStream) rfl trivial (.ends rfl)
  have hcalls := run_calls (s := ended) (h := 0) (k := 0) (t := closed) rfl rfl rfl rfl
  have hbuilds : Step called (.builds (.replace (some 0) 1) (OnionKeys.new [] []) 7) replaced :=
    .builds _ _ rfl
  have hreach : system.Reachable replaced :=
    ⟨onePool, _, onePool_started,
      (hopens.of_restrict.snoc hends).trans (hcalls.of_restrict.snoc hbuilds)⟩
  have hages := (hclaim replaced hreach).2.2
  exact absurd hages (by decide)

/-- The one circuit of a pool becomes too old, its replacement cannot be built, and the
cleanup removes it: the pool holds neither a circuit nor an age. -/
theorem agesHeld_of_keepsAges_expired :
    ∃ es s, (system.restrict KeepsAges).Run onePool es s ∧ s.pool.circuits.keys = [] ∧
      s.pool.circuitAges.keys.length ≤ s.pool.circuits.keys.length := by
  let built : CircuitTask := CircuitTask.spawn (Circuit.built 1 (OnionKeys.new [] []))
  let dirty := built.expire
  let aged : List CircuitId := [1]
  let woken : PoolState := { onePool with lock := some (.expiring [1] []), monitor := .holding }
  let soiled := woken.expireNext 1 [] []
  let expired : PoolState := { soiled with lock := none, monitor := .rebuilding aged.length }
  let rebuilding := { expired with monitor := .holding }.startBuild (.aged 0)
  let failed := rebuilding.failBuild (.aged 0)
  let scanning : PoolState :=
    { failed with lock := some (.findingDirty [(1, 0)] []), monitor := .holding }
  let counting : PoolState := { scanning with lock := some (.counting 1 0 [] []) }
  let scanned : PoolState :=
    { counting with
      lock := some (.findingDirty []
        (if dirty.circuit.activeStreamCount = 0 then [] ++ [1] else [])) }
  let cleaning : PoolState := { scanned with lock := none, monitor := .cleaning [1] }
  let cleaned : PoolState :=
    { cleaning with pool := cleaning.pool.removeCircuit 1, monitor := .cleaning [] }
  have hwakes : Step onePool (.wakes (600 * 10 ^ 9)) woken := .wakes _ rfl rfl (.refl _)
  have hexpires : Step woken (.works none) soiled := .expires rfl
  have hexpired : Step soiled (.works none) expired := .expired rfl
  have hrebuilds : Step expired (.works none) rebuilding := .rebuilds rfl rfl
  have hfails : Step rebuilding (.fails (.aged 0)) failed := .fails rfl
  have hscans : Step failed (.works none) scanning := .findsDirty rfl rfl (.refl _)
  have hlooks : Step scanning (.works none) counting := .looksDirty (t := dirty) rfl rfl
  have hcounts : Step counting (.works none) scanned := .counts (t := dirty) rfl rfl
  have hfound : Step scanned (.works none) cleaning := .foundDirty rfl
  have hcleans : Step cleaning (.works none) cleaned := .cleans rfl rfl
  have hkeep : ∀ {s e s'}, Step s e s' → s.removed e = none →
      (system.restrict KeepsAges).step s e s' :=
    fun hstep hremoved => ⟨keepsAges_of_removed hremoved, hstep⟩
  have hnil : (system.restrict KeepsAges).Run onePool [] onePool := .nil onePool
  have hbuilt := (((hnil.snoc (hkeep hwakes rfl)).snoc (hkeep hexpires rfl)).snoc
    (hkeep hexpired rfl)).snoc (hkeep hrebuilds rfl)
  have hscanned := (((hbuilt.snoc (hkeep hfails rfl)).snoc (hkeep hscans rfl)).snoc
    (hkeep hlooks rfl)).snoc (hkeep hcounts rfl)
  have hnoAge : cleaning.KeepsAges (.works none) := by
    intro id hid
    cases hid
    decide
  have hrun := (hscanned.snoc (hkeep hfound rfl)).snoc ⟨hnoAge, hcleans⟩
  exact ⟨_, cleaned, hrun, rfl, (agesHeld_of_keepsAges onePool_started hrun).2.2⟩

end

end PoolState

end NoPanic
