/-
# How many circuits the pool holds ready

A circuit has its slot while the pool holds both the circuit and its age. Expiry takes
the age away and owes the pool one circuit; replacing a circuit takes the circuit away
and owes one too. When the build fails, the pool counts the failure, and the slot is lost
until another call for the same circuit succeeds. The slots, the lost ones and the circuits
that are owed together never exceed the size of the pool, and no circuit is replaced twice,
as long as a circuit is replaced only while it has its slot or has lost it. Any other circuit
has expired or been replaced already: replacing it again makes the pool too large.
-/

import NoPanic.Client.PoolMaps
import NoPanic.Client.PoolStreams
import NoPanic.Common.Reference

namespace NoPanic

open NoPanic.Math

/-- A circuit that is not ready does not become ready. -/
theorem CircuitTask.Step.ready [Primitives] {t t' : CircuitTask} {e : CircuitEvent}
    (hstep : t.Step e t') (hready : t'.circuit.state = .ready) : t.circuit.state = .ready := by
  cases hstep with
  | allocates | registers | unregisters => exact hready
  | sends streamId command data entryWriter =>
      rwa [(sendMessage_frame t.circuit streamId command data entryWriter).2.1] at hready
  | expires =>
      by_cases hbefore : t.circuit.state = .ready
      · exact hbefore
      · rwa [expire, if_neg hbefore] at hready
  | receives msg hreading =>
      cases haccept : t.circuit.onionKeys.backwardEnd.accept? msg with
      | none =>
          rw [(receive_of_not_accept haccept).1] at hready
          cases hready
      | some out => rwa [(receive_of_accept haccept).2.1] at hready
  | ends | finishes => cases hready

/-- The circuits that the holder of the lock has still to add. -/
def PoolHold.owed : PoolHold → Nat
  | .expiring _ agedOut => agedOut.length
  | .building (.aged left) _ => left + 1
  | .building _ _ => 1
  | _ => 0

/-- The replacements of aged circuits that the monitor has still to build. -/
def MonitorPhase.owed : MonitorPhase → Nat
  | .rebuilding left => left
  | _ => 0

namespace PoolState

/-- The circuits of the pool that are in a state. -/
def idsIn (s : PoolState) (state : CircuitState) : Finset CircuitId :=
  s.pool.circuits.keys.toFinset.filter fun id =>
    (s.task? id).map (fun t => t.circuit.state) = some state

/-- The circuits of the pool that are ready. -/
def readyIds (s : PoolState) : Finset CircuitId := s.idsIn .ready

/-- The circuits of the pool that have closed. -/
def closedIds (s : PoolState) : Finset CircuitId := s.idsIn .closed

/-- The circuits that have their slot. -/
def slotIds (s : PoolState) : Finset CircuitId :=
  s.pool.circuits.keys.toFinset ∩ s.pool.circuitAges.keys.toFinset

/-- The circuits for which only calls of `replace_circuit` have failed, unless one is under
way. -/
def lostIds (s : PoolState) : Finset CircuitId :=
  match s.lock with
  | some (.building (.replace _ failedId) _) =>
      s.pool.rebuildFailureCounts.keys.toFinset.erase failedId
  | _ => s.pool.rebuildFailureCounts.keys.toFinset

/-- The circuits that are still to be added. -/
def owed (s : PoolState) : Nat := s.lock.elim 0 PoolHold.owed + s.monitor.owed

/-- The ids of all circuits that have been built. -/
def heapIds (s : PoolState) : List CircuitId := s.heap.map fun t => t.circuit.circuitId

/-- A circuit is built only under an id that none has had. -/
def BuildsFresh (s : PoolState) : PoolEvent → Prop
  | .builds purpose _ _ => ∀ id, s.lock = some (.building purpose id) → id ∉ s.heapIds
  | _ => True

/-- A replacement begins only for a circuit that has its slot, or for which only failed calls
are on record, and a circuit is built only under an id that none has had. -/
def ReplacesOnce (s : PoolState) : PoolEvent → Prop
  | .replaces _ failedId => failedId ∈ s.slotIds ∨ failedId ∈ s.pool.rebuildFailureCounts
  | e => s.BuildsFresh e

/-- A circuit expires in a step of the monitor. -/
def expiresNow (s : PoolState) (id : CircuitId) : PoolEvent → Bool
  | .works none =>
      match s.lock with
      | some (.expiring (next :: _) _) =>
          next == id && (s.task? id).any fun t => t.circuit.state = .ready
      | _ => false
  | _ => false

/-- How often a step replaces a circuit: the circuit expires, and the monitor is to build one
for it, or a call of `replace_circuit` for it succeeds. -/
def replacements (id : CircuitId) (s : PoolState) (e : PoolEvent) : Nat :=
  (if e.replacesFor id then 1 else 0) + if s.expiresNow id e then 1 else 0

/-- Where circuits are replaced once, they are built under new ids. -/
theorem ReplacesOnce.fresh {s : PoolState} {e : PoolEvent} (h : s.ReplacesOnce e) :
    s.BuildsFresh e := by
  cases e with
  | replaces => trivial
  | _ => exact h

/-- What the pool knows of ids: those of its circuits have been given to circuits, and so have
those of circuits that are being replaced or whose slots are lost, which it does not hold. -/
structure Known (s : PoolState) : Prop where
  circuits : ∀ id ∈ s.pool.circuits, id ∈ s.heapIds
  counted : ∀ id ∈ s.pool.rebuildFailureCounts, id ∈ s.heapIds ∧ id ∉ s.pool.circuits
  replacing : ∀ id, s.Replacing id → id ∈ s.heapIds ∧ id ∉ s.pool.circuits

/-- A circuit that has been replaced once: it has no slot, it has not lost one, and nobody
replaces it. -/
structure Spent (s : PoolState) (id : CircuitId) : Prop where
  slot : id ∉ s.slotIds
  counted : id ∉ s.pool.rebuildFailureCounts
  replacing : ¬ s.Replacing id
  given : id ∈ s.heapIds

/-- The invariant: circuits of the pool are on the heap, those that are ready have their
slots, and the slots fit. -/
structure Fits (s : PoolState) (size : Nat) : Prop where
  onHeap : ∀ id k, s.pool.circuits.lookup id = some k → k < s.heap.length
  ready : s.readyIds ⊆ s.slotIds
  bound : s.slotIds.card + s.owed ≤ size

theorem mem_idsIn {s : PoolState} {state : CircuitState} {id : CircuitId} :
    id ∈ s.idsIn state ↔ ∃ k t, s.pool.circuits.lookup id = some k ∧ s.heap[k]? = some t ∧
      t.circuit.state = state := by
  rw [idsIn, Finset.mem_filter, List.mem_toFinset, ← AList.mem_keys, ← AList.lookup_isSome]
  constructor
  · rintro ⟨-, hstate⟩
    obtain ⟨t, htask, hstate⟩ := Option.map_eq_some_iff.mp hstate
    obtain ⟨k, hlookup, hheap⟩ := Option.bind_eq_some_iff.mp htask
    exact ⟨k, t, hlookup, hheap, hstate⟩
  · rintro ⟨k, t, hlookup, hheap, hstate⟩
    refine ⟨by rw [hlookup]; rfl, ?_⟩
    rw [task?, hlookup, Option.bind_some, hheap, Option.map_some, hstate]

theorem mem_readyIds {s : PoolState} {id : CircuitId} :
    id ∈ s.readyIds ↔ ∃ k t, s.pool.circuits.lookup id = some k ∧ s.heap[k]? = some t ∧
      t.circuit.state = .ready := mem_idsIn

theorem mem_slotIds {s : PoolState} {id : CircuitId} :
    id ∈ s.slotIds ↔ id ∈ s.pool.circuits ∧ id ∈ s.pool.circuitAges := by
  rw [slotIds, Finset.mem_inter, List.mem_toFinset, List.mem_toFinset, ← AList.mem_keys,
    ← AList.mem_keys]

section

variable {s s' : PoolState} {size : Nat}

/-- A circuit that leaves the pool gives up its slot, if it has one. -/
theorem slotIds_remove (id : CircuitId) (hcircuits : s'.pool.circuits = s.pool.circuits.erase id)
    (hages : s'.pool.circuitAges = s.pool.circuitAges) : s'.slotIds = s.slotIds.erase id := by
  ext other
  rw [mem_slotIds, Finset.mem_erase, mem_slotIds, hcircuits, hages, AList.mem_erase]
  exact and_assoc

/-- A circuit that expires gives up its slot. -/
theorem slotIds_forget (id : CircuitId) (hcircuits : s'.pool.circuits = s.pool.circuits)
    (hages : s'.pool.circuitAges = s.pool.circuitAges.erase id) :
    s'.slotIds = s.slotIds.erase id := by
  ext other
  rw [mem_slotIds, Finset.mem_erase, mem_slotIds, hcircuits, hages, AList.mem_erase]
  tauto

/-- A circuit that joins the pool has its slot. -/
theorem slotIds_add (id : CircuitId) {k now : Nat}
    (hcircuits : s'.pool.circuits = s.pool.circuits.insert id k)
    (hages : s'.pool.circuitAges = s.pool.circuitAges.insert id now) :
    s'.slotIds = insert id s.slotIds := by
  ext other
  rw [mem_slotIds, Finset.mem_insert, mem_slotIds, hcircuits, hages, AList.mem_insert,
    AList.mem_insert]
  tauto

/-- A step that keeps the circuits and their ages, and owes no more. -/
theorem Fits.congr (h : s.Fits size) (hcircuits : s'.pool.circuits = s.pool.circuits)
    (hages : s'.pool.circuitAges = s.pool.circuitAges) (hheap : s'.heap = s.heap)
    (howed : s'.owed ≤ s.owed) : s'.Fits size := by
  have hslots : s'.slotIds = s.slotIds := by rw [slotIds, slotIds, hcircuits, hages]
  refine ⟨?_, ?_, ?_⟩
  · rw [hcircuits, hheap]
    exact h.onHeap
  · intro id hready
    rw [mem_readyIds, hcircuits, hheap] at hready
    rw [hslots]
    exact h.ready (mem_readyIds.mpr hready)
  · rw [hslots]
    exact le_trans (Nat.add_le_add_left howed _) h.bound

theorem Fits.unlocks (h : s.Fits size) (hunlocks : Unlocks s s') (howed : s'.owed ≤ s.owed) :
    s'.Fits size :=
  h.congr hunlocks.circuits hunlocks.circuitAges hunlocks.heap howed

/-- A step of a circuit. -/
theorem Fits.setTask (h : s.Fits size) {k : Nat} {t t' : CircuitTask} (htask : s.heap[k]? = some t)
    (hready : t'.circuit.state = .ready → t.circuit.state = .ready) :
    (s.setTask k t').Fits size := by
  refine ⟨?_, ?_, h.bound⟩
  · intro id k' hlookup
    rw [PoolState.setTask, List.length_set]
    exact h.onHeap id k' hlookup
  · intro id hmem
    obtain ⟨k', u, hlookup, hheap, hstate⟩ := mem_readyIds.mp hmem
    refine h.ready (mem_readyIds.mpr ?_)
    rw [PoolState.setTask, List.getElem?_set] at hheap
    split at hheap
    · next heq =>
      split at hheap
      · cases hheap
        exact ⟨k', t, hlookup, heq ▸ htask, hready hstate⟩
      · cases hheap
    · exact ⟨k', u, hlookup, hheap, hstate⟩

/-- A circuit leaves the pool. -/
theorem Fits.remove {size' : Nat} (h : s.Fits size) (id : CircuitId)
    (hcircuits : s'.pool.circuits = s.pool.circuits.erase id)
    (hages : s'.pool.circuitAges = s.pool.circuitAges) (hheap : s'.heap = s.heap)
    (hbound : (s.slotIds.erase id).card + s'.owed ≤ size') : s'.Fits size' := by
  have hslots := slotIds_remove id hcircuits hages
  refine ⟨?_, ?_, ?_⟩
  · intro id' k hlookup
    rw [hcircuits, HashMap.lookup_erase_eq] at hlookup
    split at hlookup
    · cases hlookup
    · rw [hheap]
      exact h.onHeap id' k hlookup
  · intro id' hmem
    obtain ⟨k, t, hlookup, hheap', hstate⟩ := mem_readyIds.mp hmem
    rw [hcircuits, HashMap.lookup_erase_eq] at hlookup
    split at hlookup
    · cases hlookup
    · next hne =>
      rw [hheap] at hheap'
      rw [hslots, Finset.mem_erase]
      exact ⟨hne, h.ready (mem_readyIds.mpr ⟨k, t, hlookup, hheap', hstate⟩)⟩
  · rw [hslots]
    exact hbound

/-- A circuit joins the pool, as one that was owed or as one more. -/
theorem Fits.addCircuit (h : s.Fits size) (id : CircuitId) (onionKeys : OnionKeys) (now : Nat)
    (more : Nat)
    (hcircuits : s'.pool.circuits = (s.addCircuit id onionKeys now).pool.circuits)
    (hages : s'.pool.circuitAges = (s.addCircuit id onionKeys now).pool.circuitAges)
    (hheap : s'.heap = (s.addCircuit id onionKeys now).heap)
    (howed : s'.owed + 1 ≤ s.owed + more) : s'.Fits (size + more) := by
  have hslots : s'.slotIds = insert id s.slotIds := slotIds_add id hcircuits hages
  refine ⟨?_, ?_, ?_⟩
  · intro id' k hlookup
    rw [hcircuits, PoolState.addCircuit, CircuitPool.insertCircuit, HashMap.lookup_insert_eq]
      at hlookup
    rw [hheap, PoolState.addCircuit, List.length_append]
    split at hlookup
    · cases hlookup
      exact Nat.lt_succ_self _
    · exact Nat.lt_succ_of_lt (h.onHeap id' k hlookup)
  · intro id' hmem
    obtain ⟨k, t, hlookup, hheap', hstate⟩ := mem_readyIds.mp hmem
    rw [hslots, Finset.mem_insert]
    rw [hcircuits, PoolState.addCircuit, CircuitPool.insertCircuit, HashMap.lookup_insert_eq]
      at hlookup
    split at hlookup
    · next heq => exact Or.inl heq
    · rw [hheap, PoolState.addCircuit, List.getElem?_append_left (h.onHeap id' k hlookup)] at hheap'
      exact Or.inr (h.ready (mem_readyIds.mpr ⟨k, t, hlookup, hheap', hstate⟩))
  · have hcard := Finset.card_insert_le id s.slotIds
    have hbound := h.bound
    rw [hslots]
    omega

/-- A circuit expires: it gives up its slot, and the pool owes another. -/
theorem Fits.expireNext (h : s.Fits size) {id : CircuitId} {todo agedOut : List CircuitId}
    (hlock : s.lock = some (.expiring (id :: todo) agedOut)) :
    (s.expireNext id todo agedOut).Fits size := by
  rcases expireNext_cases hlock with ⟨todo', heq⟩ | ⟨k, t, hlookup, htask, hready, heq⟩
  · rw [heq]
    refine h.congr rfl rfl rfl ?_
    rw [PoolState.owed, PoolState.owed, hlock]
    exact le_refl _
  · rw [heq]
    have hslot := h.ready (mem_readyIds.mpr ⟨k, t, hlookup, htask, hready⟩)
    have hset : (s.setTask k t.expire).Fits size := h.setTask htask fun _ => hready
    have hexpired : t.expire.circuit.state = .dirty := by
      rw [CircuitTask.expire, if_pos hready]
    refine ⟨hset.onHeap, ?_, ?_⟩
    · intro id' hmem
      have hmem' : id' ∈ (s.setTask k t.expire).readyIds := hmem
      have hold := hset.ready hmem'
      rw [mem_slotIds] at hold ⊢
      refine ⟨hold.1, ?_⟩
      show id' ∈ s.pool.circuitAges.erase id
      rw [AList.mem_erase]
      refine ⟨?_, hold.2⟩
      -- the circuit that has expired is not ready any more
      rintro rfl
      obtain ⟨k', u, hlookup', hheap, hstate⟩ := mem_readyIds.mp hmem'
      rw [show (s.setTask k t.expire).pool.circuits.lookup id' = some k from hlookup]
        at hlookup'
      cases hlookup'
      rw [PoolState.setTask, List.getElem?_set_self (h.onHeap id' k hlookup)] at hheap
      cases hheap
      rw [hexpired] at hstate
      cases hstate
    · have hslots : PoolState.slotIds { s.setTask k t.expire with
          pool := s.pool.forgetAge id
          lock := some (.expiring todo (agedOut ++ [id])) } = s.slotIds.erase id :=
        slotIds_forget id rfl rfl
      have hcard := Finset.card_erase_add_one hslot
      have hbound := h.bound
      rw [hslots]
      simp only [PoolState.owed, hlock, Option.elim_some, PoolHold.owed, MonitorPhase.owed]
        at hbound ⊢
      rw [List.length_append, List.length_singleton]
      have hsame : (s.setTask k t.expire).monitor = s.monitor := rfl
      rw [hsame]
      omega

/-- A build is owed. -/
theorem one_le_owed_building (purpose : BuildPurpose) (id : CircuitId) :
    1 ≤ (PoolHold.building purpose id).owed := by
  cases purpose with
  | aged left => exact Nat.le_add_left 1 left
  | replace caller failedId => exact le_refl 1
  | select h => exact le_refl 1

/-- A build that ends well pays off one circuit. -/
theorem owed_finishBuild {purpose : BuildPurpose} {id : CircuitId} (onionKeys : OnionKeys)
    (now : Nat) (hlock : s.lock = some (.building purpose id)) :
    (s.finishBuild purpose id onionKeys now).owed + 1 ≤ s.owed := by
  have hsame : ∀ u : PoolState, u.lock = none → u.monitor = s.monitor → u.owed + 1 ≤ s.owed := by
    intro u hu hmonitor
    have hpaid := one_le_owed_building purpose id
    rw [owed, owed, hu, hlock, hmonitor, Option.elim_none, Option.elim_some]
    omega
  cases purpose with
  | aged left =>
      rw [owed, owed, hlock]
      show 0 + left + 1 ≤ (left + 1) + _
      omega
  | replace caller failedId =>
      cases caller <;> exact hsame _ rfl rfl
  | select h => exact hsame _ rfl rfl

/-- A build that fails gives up one circuit. -/
theorem owed_failBuild {purpose : BuildPurpose} {id : CircuitId}
    (hlock : s.lock = some (.building purpose id)) : (s.failBuild purpose).owed + 1 ≤ s.owed := by
  have hsame : ∀ u : PoolState, u.lock = none → u.monitor = s.monitor → u.owed + 1 ≤ s.owed := by
    intro u hu hmonitor
    have hgiven := one_le_owed_building purpose id
    rw [owed, owed, hu, hlock, hmonitor, Option.elim_none, Option.elim_some]
    omega
  cases purpose with
  | aged left =>
      rw [owed, owed, hlock]
      show 0 + left + 1 ≤ (left + 1) + _
      omega
  | replace caller failedId =>
      cases caller <;> exact hsame _ rfl rfl
  | select h => exact hsame _ rfl rfl

/-- When a replacement begins, one circuit more is owed. -/
theorem owed_startReplace (hlock : s.lock = none) (caller : Option Nat)
    (failedId : CircuitId) : (s.startReplace caller failedId).owed = s.owed + 1 := by
  rw [PoolState.owed, PoolState.owed, hlock]
  show 1 + _ = 0 + _ + 1
  rw [Nat.zero_add, Nat.add_comm]
  rfl

/-- A replacement owes one circuit more and gives up the slot of the failed one, if it has
one. -/
theorem Fits.startReplace (h : s.Fits size) {caller : Option Nat} {failedId : CircuitId}
    (hlock : s.lock = none) : (s.startReplace caller failedId).Fits (size + 1) ∧
      (failedId ∈ s.slotIds → (s.startReplace caller failedId).Fits size) := by
  have hbound := h.bound
  have howed := s.owed_startReplace hlock caller failedId
  refine ⟨h.remove failedId rfl rfl rfl ?_, fun hslot => h.remove failedId rfl rfl rfl ?_⟩
  · have hcard := Finset.card_erase_le (s := s.slotIds) (a := failedId)
    omega
  · have hpos := Finset.card_erase_add_one hslot
    omega

/-- The pool after `initialize`. -/
theorem fits_initialized {pool : CircuitPool} (hcircuits : pool.circuits = ∅)
    (built : List (OnionKeys × Nat)) :
    (initialized pool built).Fits built.length ∧
      (initialized pool built).pool.poolSize = pool.poolSize ∧
      (initialized pool built).lock = none ∧ (initialized pool built).monitor = .sleeping := by
  induction built using List.reverseRecOn with
  | nil =>
      refine ⟨⟨?_, ?_, ?_⟩, rfl, rfl, rfl⟩
      · intro id k hlookup
        rw [show (initialized pool []).pool.circuits = ∅ from hcircuits] at hlookup
        cases hlookup
      · intro id hmem
        obtain ⟨k, t, -, hheap, -⟩ := mem_readyIds.mp hmem
        cases hheap
      · rw [slotIds, show (initialized pool []).pool.circuits = ∅ from hcircuits]
        rfl
  | append_singleton built last ih =>
      obtain ⟨hfits, hsize, hlock, hmonitor⟩ := ih
      have hlast : initialized pool (built ++ [last]) =
          ({ initialized pool built with
            pool := (initialized pool built).pool.allocateCircuitId.1 }).addCircuit
              (initialized pool built).pool.allocateCircuitId.2 last.1 last.2 := by
        rw [initialized, List.foldl_append]
        rfl
      refine ⟨?_, by rw [hlast]; exact hsize, by rw [hlast]; exact hlock,
        by rw [hlast]; exact hmonitor⟩
      rw [hlast, List.length_append]
      refine hfits.addCircuit _ last.1 last.2 1 rfl rfl rfl ?_
      exact le_refl _

variable [Primitives]

/-- Every step keeps the pool in its size, unless a replacement begins. -/
theorem Fits.keeps {e : PoolEvent} (h : s.Fits size) (hfinds : s.FindsReady e)
    (hother : ∀ caller id, e ≠ .replaces caller id) (hstep : Step s e s') : s'.Fits size := by
  cases hstep with
  | reads htask hreader hstep => exact h.setTask htask hstep.ready
  | wakes now hmonitor hlock htodo =>
      refine h.congr rfl rfl rfl ?_
      simp [owed, PoolHold.owed, MonitorPhase.owed]
  | expires hlock => exact h.expireNext hlock
  | @expired agedOut hlock =>
      refine h.congr rfl rfl rfl ?_
      simp [owed, hlock, PoolHold.owed, MonitorPhase.owed]
  | @rebuilds left hmonitor hlock =>
      refine h.congr rfl rfl rfl ?_
      simp [owed, startBuild, hmonitor, hlock, PoolHold.owed, MonitorPhase.owed]
  | findsDirty hmonitor hlock htodo =>
      refine h.congr rfl rfl rfl ?_
      simp [owed, PoolHold.owed, MonitorPhase.owed]
  | @looksDirty id k todo ids t hlock htask =>
      refine h.congr rfl rfl rfl ?_
      by_cases hdirty : t.circuit.state = .dirty <;>
        simp [owed, hlock, hdirty, PoolHold.owed, MonitorPhase.owed]
  | counts hlock htask =>
      refine h.congr rfl rfl rfl ?_
      simp [owed, hlock, PoolHold.owed, MonitorPhase.owed]
  | foundDirty hlock =>
      refine h.congr rfl rfl rfl ?_
      simp [owed, MonitorPhase.owed]
  | @cleans id ids hmonitor hlock =>
      refine h.remove id rfl rfl rfl ?_
      have hcard := Finset.card_erase_le (s := s.slotIds) (a := id)
      have hbound := h.bound
      simp only [owed, hlock, hmonitor] at hbound ⊢
      exact le_trans (Nat.add_le_add_right hcard _) hbound
  | findsClosed hmonitor hlock htodo =>
      refine h.congr rfl rfl rfl ?_
      simp [owed, PoolHold.owed, MonitorPhase.owed]
  | looksClosed hlock htask =>
      refine h.congr rfl rfl rfl ?_
      simp [owed, hlock, PoolHold.owed, MonitorPhase.owed]
  | foundClosed hlock =>
      refine h.congr rfl rfl rfl ?_
      simp [owed, MonitorPhase.owed]
  | @checks id ids hmonitor hlock =>
      refine h.congr rfl rfl rfl ?_
      by_cases habandoned : s.pool.isAbandoned id <;>
        simp [owed, hlock, habandoned, MonitorPhase.owed]
  | backsOff hmonitor hlock =>
      refine h.congr rfl rfl rfl ?_
      simp [owed, hlock, MonitorPhase.owed]
  | retries | replaces => exact absurd rfl (hother _ _)
  | rests hmonitor hlock =>
      refine h.congr rfl rfl rfl ?_
      simp [owed, hlock, MonitorPhase.owed]
  | selects hhandler hlock htodo =>
      refine h.congr rfl rfl rfl ?_
      simp [owed, hlock, PoolHold.owed, setHandler]
  | looksReady hlock htask =>
      refine h.congr rfl rfl rfl ?_
      simp [owed, hlock, PoolHold.owed, MonitorPhase.owed]
  | @picks handler id count hlock =>
      have hunlocks := s.unlocks_pick handler id
      refine h.unlocks hunlocks ?_
      rcases s.pick_cases handler id with heq | ⟨k, -, heq⟩
      · simp [heq, owed, hlock, setHandler]
      · simp [heq, owed, hlock, setHandler]
  | finds hlock => exact absurd hlock hfinds
  | @registers _ k t hhandler htask =>
      have hopened : (s.setTask k t.openStream).Fits size :=
        h.setTask htask fun hready => hready
      exact hopened.congr rfl rfl rfl (le_refl _)
  | sends hhandler htask hstep => exact h.setTask htask hstep.ready
  | cleansUp ok hhandler htask hstep =>
      exact (h.setTask htask hstep.ready).congr rfl rfl rfl (le_refl _)
  | breaks hhandler => exact h.congr rfl rfl rfl (le_refl _)
  | inspects hhandler htask => exact h.congr rfl rfl rfl (le_refl _)
  | @builds purpose id onionKeys now hlock =>
      have hunlocks := s.unlocks_finishBuild purpose id onionKeys now
      exact h.addCircuit id onionKeys now 0 hunlocks.circuits hunlocks.circuitAges hunlocks.heap
        (owed_finishBuild onionKeys now hlock)
  | @fails purpose id hlock =>
      exact h.unlocks (s.unlocks_failBuild purpose) (Nat.le_of_succ_le (owed_failBuild hlock))

omit [Primitives] in
/-- While no replacement is being built, every slot on record is lost. -/
theorem lostIds_of_not_replacing (h : ∀ id, ¬ s.Replacing id) :
    s.lostIds = s.pool.rebuildFailureCounts.keys.toFinset := by
  rw [lostIds]
  split
  · next caller failedId new hlock => exact absurd ⟨caller, new, hlock⟩ (h failedId)
  · rfl

omit [Primitives] in
/-- Nobody builds a replacement while somebody else holds the lock, or nobody does. -/
theorem not_replacing (hlock : ∀ caller id new, s.lock ≠ some (.building (.replace caller id) new))
    (id : CircuitId) : ¬ s.Replacing id := by
  rintro ⟨caller, new, hbuilding⟩
  exact hlock caller id new hbuilding

/-- A replacement is under way after a step when it was before, or has just begun. -/
theorem replacing_step {e : PoolEvent} {id : CircuitId} (hstep : Step s e s')
    (h : s'.Replacing id) : s.Replacing id ∨ ∃ caller, e = .replaces caller id := by
  obtain ⟨caller, new, hlock'⟩ := h
  cases hstep with
  | reads | registers | sends | cleansUp | breaks | inspects | cleans | checks | backsOff | rests =>
      exact Or.inl ⟨caller, new, hlock'⟩
  | expires hlock =>
      rcases expireNext_cases hlock with ⟨todo, heq⟩ | ⟨k, t, -, -, -, heq⟩
      · rw [heq] at hlock'
        cases hlock'
      · rw [heq] at hlock'
        cases hlock'
  | @looksDirty other k todo ids t hlock htask =>
      dsimp only at hlock'
      split at hlock' <;> cases hlock'
  | retries | replaces =>
      cases hlock'
      exact Or.inr ⟨_, rfl⟩
  | @picks handler other count hlock =>
      rw [(s.unlocks_pick handler other).lock] at hlock'
      cases hlock'
  | @builds purpose other onionKeys now hlock =>
      rw [(s.unlocks_finishBuild purpose other onionKeys now).lock] at hlock'
      cases hlock'
  | @fails purpose other hlock =>
      rw [(s.unlocks_failBuild purpose).lock] at hlock'
      cases hlock'
  | _ => cases hlock'


/-- What a step does to the lost slots: the beginning of a replacement takes one away, a failure
adds one, and nothing else matters. -/
theorem lostIds_step {e : PoolEvent} (hstep : Step s e s') :
    (∃ caller id, e = .replaces caller id ∧ s'.lostIds = s.lostIds.erase id) ∨
      (∃ caller id, e = .fails (.replace caller id) ∧ s'.lostIds = insert id s.lostIds) ∨
      (∀ caller id, e ≠ .replaces caller id) ∧ s'.lostIds = s.lostIds := by
  have hsame : ∀ {u : PoolState}, (∀ id, ¬ u.Replacing id) → (∀ id, ¬ s.Replacing id) →
      u.pool.rebuildFailureCounts = s.pool.rebuildFailureCounts → u.lostIds = s.lostIds := by
    intro u hu hs hcounts
    rw [lostIds_of_not_replacing hu, lostIds_of_not_replacing hs, hcounts]
  have hfree : ∀ {u : PoolState}, u.lock = none → ∀ id, ¬ u.Replacing id :=
    fun hlock => not_replacing (by simp [hlock])
  have hheld : ∀ {hold : PoolHold}, s.lock = some hold →
      (∀ caller id new, hold ≠ .building (.replace caller id) new) → ∀ id, ¬ s.Replacing id :=
    fun hlock hother => not_replacing fun caller id new hbuilding =>
      hother caller id new (Option.some.inj (hlock.symm.trans hbuilding))
  cases hstep with
  | reads | registers | sends | cleansUp | breaks | inspects | cleans | checks | backsOff | rests =>
      exact Or.inr (Or.inr ⟨by simp, rfl⟩)
  | wakes _ _ hlock
  | rebuilds _ hlock
  | findsDirty _ hlock
  | findsClosed _ hlock
  | selects _ hlock =>
      refine Or.inr (Or.inr ⟨by simp, hsame (not_replacing ?_) (hfree hlock) rfl⟩)
      simp [startBuild]
  | expires hlock =>
      refine Or.inr (Or.inr ⟨by simp, ?_⟩)
      rcases expireNext_cases hlock with ⟨todo, heq⟩ | ⟨k, t, -, -, -, heq⟩
      · rw [heq]
        exact hsame (not_replacing (by simp)) (hheld hlock (by simp)) rfl
      · rw [heq]
        exact hsame (not_replacing (by simp)) (hheld hlock (by simp)) rfl
  | expired hlock | foundDirty hlock | foundClosed hlock =>
      exact Or.inr (Or.inr ⟨by simp, hsame (hfree rfl) (hheld hlock (by simp)) rfl⟩)
  | @looksDirty id k todo ids t hlock htask =>
      refine Or.inr (Or.inr ⟨by simp, hsame (not_replacing ?_) (hheld hlock (by simp)) rfl⟩)
      by_cases hdirty : t.circuit.state = .dirty <;> simp [hdirty]
  | counts hlock | looksClosed hlock | looksReady hlock | finds hlock =>
      refine Or.inr (Or.inr ⟨by simp, hsame (not_replacing ?_) (hheld hlock (by simp)) rfl⟩)
      simp [startBuild]
  | @retries id secs ids hmonitor hlock =>
      refine Or.inl ⟨none, id, rfl, ?_⟩
      rw [lostIds_of_not_replacing (hfree hlock)]
      rfl
  | @replaces handler id hhandler hlock =>
      refine Or.inl ⟨some handler, id, rfl, ?_⟩
      rw [lostIds_of_not_replacing (hfree hlock)]
      rfl
  | @picks handler id count hlock =>
      refine Or.inr (Or.inr ⟨by simp, hsame (hfree (s.unlocks_pick handler id).lock)
        (hheld hlock (by simp)) ?_⟩)
      rcases s.pick_cases handler id with heq | ⟨k, -, heq⟩
      · rw [heq]
        rfl
      · rw [heq]
        rfl
  | @builds purpose id onionKeys now hlock =>
      have hafter := hfree (s.unlocks_finishBuild purpose id onionKeys now).lock
      refine Or.inr (Or.inr ⟨by simp, ?_⟩)
      cases purpose with
      | aged | select => exact hsame hafter (hheld hlock (by simp)) rfl
      | replace caller failedId =>
          have hcounts : (s.finishBuild (.replace caller failedId) id onionKeys
              now).pool.rebuildFailureCounts = s.pool.rebuildFailureCounts.erase failedId := by
            cases caller <;> rfl
          rw [lostIds_of_not_replacing hafter, hcounts, lostIds, hlock]
          ext other
          simp only [List.mem_toFinset, Finset.mem_erase, ← AList.mem_keys, AList.mem_erase]
  | @fails purpose id hlock =>
      have hafter := hfree (s.unlocks_failBuild purpose).lock
      cases purpose with
      | aged | select =>
          exact Or.inr (Or.inr ⟨by simp, hsame hafter (hheld hlock (by simp)) rfl⟩)
      | replace caller failedId =>
          have hcounts : (s.failBuild (.replace caller failedId)).pool.rebuildFailureCounts =
              s.pool.rebuildFailureCounts.insert failedId (s.pool.failures failedId + 1) := by
            cases caller <;> rfl
          refine Or.inr (Or.inl ⟨caller, failedId, rfl, ?_⟩)
          rw [lostIds_of_not_replacing hafter, hcounts, lostIds, hlock]
          ext other
          simp only [List.mem_toFinset, Finset.mem_insert, Finset.mem_erase, ← AList.mem_keys,
            AList.mem_insert]
          tauto

/-- Every step keeps the pool, with the slots it has lost, in its size. -/
theorem Fits.step {e : PoolEvent} (h : s.Fits size) (honce : s.ReplacesOnce e)
    (hfinds : s.FindsReady e) (hstep : Step s e s') :
    ∃ size', s'.Fits size' ∧ size' + s'.lostIds.card ≤ size + s.lostIds.card := by
  rcases lostIds_step hstep with ⟨caller, id, rfl, hlost⟩ | ⟨caller, id, rfl, hlost⟩ |
    ⟨hother, hlost⟩
  · -- the call uses the slot of the circuit, or one that is lost
    have hcalls : s.lock = none ∧ s'.Fits (size + 1) ∧ (id ∈ s.slotIds → s'.Fits size) := by
      cases hstep with
      | @retries id secs ids hmonitor hlock =>
          have hwaited : ({ s with monitor := .retrying ids } : PoolState).Fits size :=
            h.congr rfl rfl rfl (by simp [owed, hlock, MonitorPhase.owed])
          exact ⟨hlock, hwaited.startReplace hlock⟩
      | @replaces handler id hhandler hlock =>
          have hcalling : (s.setHandler handler .holding).Fits size :=
            h.congr rfl rfl rfl (le_refl _)
          exact ⟨hlock, hcalling.startReplace hlock⟩
    obtain ⟨hlock, hmore, hslot⟩ := hcalls
    rw [hlost]
    rcases honce with hmem | hcounted
    · exact ⟨size, hslot hmem, Nat.add_le_add_left (Finset.card_erase_le) _⟩
    · have hmem : id ∈ s.lostIds := by
        rw [lostIds_of_not_replacing (not_replacing (by simp [hlock])), List.mem_toFinset]
        exact AList.mem_keys.mp hcounted
      have hcard := Finset.card_erase_add_one hmem
      exact ⟨size + 1, hmore, by omega⟩
  · cases hstep with
    | fails hlock =>
        have hunlocks := s.unlocks_failBuild (.replace caller id)
        have hkept := h.unlocks hunlocks (Nat.le_of_succ_le (owed_failBuild hlock))
        have hslots : (s.failBuild (.replace caller id)).slotIds = s.slotIds := by
          rw [slotIds, slotIds, hunlocks.circuits, hunlocks.circuitAges]
        have hpaid := owed_failBuild hlock
        have hbound := h.bound
        have hcard := Finset.card_insert_le id s.lostIds
        refine ⟨size - 1, ⟨hkept.onHeap, hkept.ready, ?_⟩, ?_⟩
        · rw [hslots]
          omega
        · rw [hlost]
          omega
  · exact ⟨size, h.keeps hfinds hother hstep, by rw [hlost]⟩

/-! ## No circuit is replaced twice -/

omit [Primitives] in
/-- A circuit keeps its id. -/
theorem heapIds_setTask {k : Nat} {t t' : CircuitTask} (htask : s.heap[k]? = some t)
    (hid : t'.circuit.circuitId = t.circuit.circuitId) : (s.setTask k t').heapIds = s.heapIds := by
  have hlt := (List.getElem?_eq_some_iff.mp htask).1
  apply List.ext_getElem?
  intro j
  rw [heapIds, heapIds, setTask, List.getElem?_map, List.getElem?_map]
  by_cases hj : k = j
  · subst hj
    rw [List.getElem?_set_self hlt, htask, Option.map_some, Option.map_some, hid]
  · rw [List.getElem?_set_ne hj]

/-- An id that has been given to a circuit stays so. -/
theorem heapIds_step {e : PoolEvent} (hstep : Step s e s') {id : CircuitId}
    (hgiven : id ∈ s.heapIds) : id ∈ s'.heapIds := by
  cases hstep with
  | reads htask hreader hstep =>
      have hid := (hstep.advances (CircuitEvent.ofReader.other hreader).1).circuitId
      rwa [heapIds_setTask htask hid]
  | expires hlock =>
      rcases expireNext_cases hlock with ⟨todo, heq⟩ | ⟨k, t, -, htask, hready, heq⟩
      · rw [heq]
        exact hgiven
      · rw [heq]
        have hkept : id ∈ (s.setTask k t.expire).heapIds := by
          rwa [heapIds_setTask htask (CircuitTask.advances_expire hready).circuitId]
        exact hkept
  | @registers handler k t hhandler htask =>
      have hid : t.openStream.circuit.circuitId = t.circuit.circuitId := rfl
      have hkept : id ∈ (s.setTask k t.openStream).heapIds := by
        rwa [heapIds_setTask htask hid]
      exact hkept
  | sends hhandler htask hstep =>
      rwa [heapIds_setTask htask (hstep.advances (by simp)).circuitId]
  | @cleansUp handler k streamId t t' ok hhandler htask hstep =>
      have hkept : id ∈ (s.setTask k t').heapIds := by
        rwa [heapIds_setTask htask (hstep.advances (by simp)).circuitId]
      exact hkept
  | @picks handler other count hlock =>
      rwa [heapIds, (s.unlocks_pick handler other).heap]
  | @builds purpose other onionKeys now hlock =>
      rw [heapIds, (s.unlocks_finishBuild purpose other onionKeys now).heap, addCircuit,
        List.map_append]
      exact List.mem_append_left _ hgiven
  | @fails purpose other hlock => rwa [heapIds, (s.unlocks_failBuild purpose).heap]
  | _ => exact hgiven

/-- What is new in the maps of the pool after a step has an id that no circuit had. -/
theorem circuits_step {e : PoolEvent} (hfresh : s.BuildsFresh e) (hstep : Step s e s')
    {id : CircuitId} :
    (id ∈ s'.pool.circuits → id ∈ s.pool.circuits ∨ id ∉ s.heapIds ∧ id ∈ s'.heapIds) ∧
      (id ∈ s'.pool.circuitAges → id ∈ s.pool.circuitAges ∨ id ∉ s.heapIds) := by
  cases hstep with
  | @builds purpose new onionKeys now hlock =>
      have hunlocks := s.unlocks_finishBuild purpose new onionKeys now
      have hnew : new ∉ s.heapIds := hfresh new hlock
      rw [hunlocks.circuits, hunlocks.circuitAges]
      constructor
      · intro hmem
        rcases (AList.mem_insert _).mp hmem with rfl | hold
        · refine Or.inr ⟨hnew, ?_⟩
          rw [heapIds, hunlocks.heap, addCircuit, List.map_append]
          exact List.mem_append_right _ (List.mem_singleton.mpr rfl)
        · exact Or.inl hold
      · intro hmem
        rcases (AList.mem_insert _).mp hmem with rfl | hold
        · exact Or.inr hnew
        · exact Or.inl hold
  | expires hlock =>
      rcases expireNext_cases hlock with ⟨todo, heq⟩ | ⟨k, t, -, -, -, heq⟩
      · rw [heq]
        exact ⟨Or.inl, Or.inl⟩
      · rw [heq]
        exact ⟨Or.inl, fun hmem => Or.inl (AList.mem_erase.mp hmem).2⟩
  | cleans | retries | replaces => exact ⟨fun hmem => Or.inl (AList.mem_erase.mp hmem).2, Or.inl⟩
  | @picks handler other count hlock =>
      have hunlocks := s.unlocks_pick handler other
      rw [hunlocks.circuits, hunlocks.circuitAges]
      exact ⟨Or.inl, Or.inl⟩
  | @fails purpose other hlock =>
      have hunlocks := s.unlocks_failBuild purpose
      rw [hunlocks.circuits, hunlocks.circuitAges]
      exact ⟨Or.inl, Or.inl⟩
  | _ => exact ⟨Or.inl, Or.inl⟩

/-- A circuit for which a failure is recorded had one before, or its replacement has just
failed. -/
theorem counted_step {e : PoolEvent} (hstep : Step s e s') {id : CircuitId}
    (hmem : id ∈ s'.pool.rebuildFailureCounts) :
    id ∈ s.pool.rebuildFailureCounts ∧ e.replacesFor id = false ∨ s.Replacing id := by
  rcases budget_step hstep with ⟨hnone, hsame⟩ | ⟨caller, failedId, onionKeys, now, rfl, hsame⟩ |
    ⟨caller, failedId, rfl, hsame⟩
  · rw [hsame.counts] at hmem
    refine Or.inl ⟨hmem, ?_⟩
    have hends := hnone id
    cases e with
    | builds purpose =>
        cases purpose with
        | aged | select => rfl
        | replace caller failedId =>
            simpa [PoolEvent.outcomeFor, PoolEvent.replacesFor] using hends
    | _ => rfl
  · rw [hsame.counts] at hmem
    obtain ⟨hne, hold⟩ := AList.mem_erase.mp hmem
    exact Or.inl ⟨hold, beq_false_of_ne (Ne.symm hne)⟩
  · rw [hsame.counts] at hmem
    rcases (AList.mem_insert _).mp hmem with rfl | hold
    · right
      cases hstep with
      | fails hlock => exact ⟨caller, _, hlock⟩
    · exact Or.inl ⟨hold, rfl⟩

/-- Every step keeps what the pool knows of ids. -/
theorem Known.step {e : PoolEvent} (h : s.Known) (honce : s.ReplacesOnce e)
    (hstep : Step s e s') : s'.Known := by
  have hgiven : ∀ {id}, id ∈ s.heapIds → id ∈ s'.heapIds := fun hid => heapIds_step hstep hid
  have hgone : ∀ {id}, id ∈ s.heapIds → id ∉ s.pool.circuits → id ∉ s'.pool.circuits := by
    intro id hid hnot hmem
    rcases (circuits_step honce.fresh hstep).1 hmem with hold | ⟨hnew, -⟩
    · exact hnot hold
    · exact hnew hid
  refine ⟨?_, ?_, ?_⟩
  · intro id hmem
    rcases (circuits_step honce.fresh hstep).1 hmem with hold | ⟨-, hid⟩
    · exact hgiven (h.circuits id hold)
    · exact hid
  · intro id hmem
    rcases counted_step hstep hmem with ⟨hold, -⟩ | hreplacing
    · obtain ⟨hid, hnot⟩ := h.counted id hold
      exact ⟨hgiven hid, hgone hid hnot⟩
    · obtain ⟨hid, hnot⟩ := h.replacing id hreplacing
      exact ⟨hgiven hid, hgone hid hnot⟩
  · intro id hreplacing
    rcases replacing_step hstep hreplacing with hbefore | ⟨caller, rfl⟩
    · obtain ⟨hid, hnot⟩ := h.replacing id hbefore
      exact ⟨hgiven hid, hgone hid hnot⟩
    · refine ⟨hgiven ?_, ?_⟩
      · rcases honce with hslot | hcounted
        · exact h.circuits id (mem_slotIds.mp hslot).1
        · exact (h.counted id hcounted).1
      · cases hstep with
        | retries | replaces => exact fun hmem => (AList.mem_erase.mp hmem).1 rfl

/-- A circuit that has been replaced stays so. -/
theorem Spent.step {e : PoolEvent} {id : CircuitId} (h : s.Spent id) (honce : s.ReplacesOnce e)
    (hstep : Step s e s') : s'.Spent id := by
  refine ⟨?_, ?_, ?_, heapIds_step hstep h.given⟩
  · intro hmem
    obtain ⟨hcircuit, hage⟩ := mem_slotIds.mp hmem
    rcases (circuits_step honce.fresh hstep).1 hcircuit with hcircuit | ⟨hnew, -⟩
    · rcases (circuits_step honce.fresh hstep).2 hage with hage | hnew
      · exact h.slot (mem_slotIds.mpr ⟨hcircuit, hage⟩)
      · exact hnew h.given
    · exact hnew h.given
  · intro hmem
    rcases counted_step hstep hmem with ⟨hold, -⟩ | hreplacing
    · exact h.counted hold
    · exact h.replacing hreplacing
  · intro hreplacing
    rcases replacing_step hstep hreplacing with hbefore | ⟨caller, rfl⟩
    · exact h.replacing hbefore
    · rcases honce with hslot | hcounted
      · exact h.slot hslot
      · exact h.counted hcounted

/-- A step that ends a call of `replace_circuit` well. -/
theorem finishBuild_of_replacesFor {e : PoolEvent} {id : CircuitId}
    (hreplaces : e.replacesFor id = true) (hstep : Step s e s') :
    ∃ caller new onionKeys now, s.lock = some (.building (.replace caller id) new) ∧
      s' = s.finishBuild (.replace caller id) new onionKeys now := by
  cases hstep with
  | @builds purpose new onionKeys now hlock =>
      cases purpose with
      | aged | select => cases hreplaces
      | replace caller failedId =>
          obtain rfl : failedId = id := beq_iff_eq.mp hreplaces
          exact ⟨caller, new, onionKeys, now, hlock, rfl⟩
  | _ => cases hreplaces

/-- A step in which a circuit expires. -/
theorem expire_of_expiresNow {e : PoolEvent} {id : CircuitId}
    (hexpires : s.expiresNow id e = true) (hstep : Step s e s') :
    ∃ k t todo agedOut, s.lock = some (.expiring (id :: todo) agedOut) ∧
      s.pool.circuits.lookup id = some k ∧ s.heap[k]? = some t ∧ t.circuit.state = .ready ∧
      s' = { s.setTask k t.expire with
        pool := s.pool.forgetAge id
        lock := some (.expiring todo (agedOut ++ [id])) } := by
  unfold expiresNow at hexpires
  split at hexpires
  · split at hexpires
    · next next todo agedOut hlock =>
      rw [Bool.and_eq_true, beq_iff_eq, Option.any_eq_true] at hexpires
      obtain ⟨rfl, t, htask, hready⟩ := hexpires
      obtain ⟨k, hlookup, hheap⟩ := Option.bind_eq_some_iff.mp htask
      have hstate : t.circuit.state = .ready := of_decide_eq_true hready
      refine ⟨k, t, todo, agedOut, hlock, hlookup, hheap, hstate, ?_⟩
      cases hstep with
      | expires hlock' =>
          rw [hlock] at hlock'
          cases hlock'
          rw [expireNext, hlookup]
          dsimp only
          rw [hheap]
          exact if_pos hstate
      | expired hlock'
      | rebuilds _ hlock'
      | findsDirty _ hlock'
      | looksDirty hlock'
      | counts hlock'
      | foundDirty hlock'
      | cleans _ hlock'
      | findsClosed _ hlock'
      | looksClosed hlock'
      | foundClosed hlock'
      | checks _ hlock'
      | backsOff _ hlock'
      | rests _ hlock' =>
          rw [hlock] at hlock'
          cases hlock'
    · cases hexpires
  · cases hexpires

/-- A call of `replace_circuit` that succeeds is the first replacement of its circuit. -/
theorem spent_of_replacesFor {e : PoolEvent} {id : CircuitId} (hknown : s.Known)
    (honce : s.ReplacesOnce e) (hreplaces : e.replacesFor id = true) (hstep : Step s e s') :
    ¬ s.Spent id ∧ s'.Spent id := by
  obtain ⟨caller, new, onionKeys, now, hlock, heq⟩ := finishBuild_of_replacesFor hreplaces hstep
  have hreplacing : s.Replacing id := ⟨caller, new, hlock⟩
  obtain ⟨hid, hnot⟩ := hknown.replacing id hreplacing
  refine ⟨fun hspent => hspent.replacing hreplacing, ?_, ?_, ?_, heapIds_step hstep hid⟩
  · intro hmem
    rcases (circuits_step honce.fresh hstep).1 (mem_slotIds.mp hmem).1 with hold | ⟨hnew, -⟩
    · exact hnot hold
    · exact hnew hid
  · have hcounts : s'.pool.rebuildFailureCounts = s.pool.rebuildFailureCounts.erase id := by
      rw [heq]
      cases caller <;> rfl
    rw [hcounts]
    exact fun hmem => (AList.mem_erase.mp hmem).1 rfl
  · apply not_replacing
    rw [heq, (s.unlocks_finishBuild (.replace caller id) new onionKeys now).lock]
    simp

/-- A circuit that expires is replaced for the first time. -/
theorem spent_of_expiresNow {e : PoolEvent} {id : CircuitId} (hknown : s.Known)
    (hready : s.readyIds ⊆ s.slotIds) (hexpires : s.expiresNow id e = true)
    (hstep : Step s e s') : ¬ s.Spent id ∧ s'.Spent id := by
  obtain ⟨k, t, todo, agedOut, hlock, hlookup, htask, hstate, rfl⟩ :=
    expire_of_expiresNow hexpires hstep
  have hslot := hready (mem_readyIds.mpr ⟨k, t, hlookup, htask, hstate⟩)
  have hcircuit := (mem_slotIds.mp hslot).1
  refine ⟨fun hspent => hspent.slot hslot, ?_, ?_, not_replacing (by simp) id, ?_⟩
  · intro hmem
    exact (AList.mem_erase.mp (mem_slotIds.mp hmem).2).1 rfl
  · intro hmem
    exact (hknown.counted id hmem).2 hcircuit
  · exact heapIds_step hstep (hknown.circuits id hcircuit)

/-- A step replaces a circuit once at most, and only for the first time. -/
theorem replacements_step {e : PoolEvent} {id : CircuitId} {n : Nat} (hknown : s.Known)
    (hready : s.readyIds ⊆ s.slotIds) (honce : s.ReplacesOnce e) (hstep : Step s e s')
    (hn : n = 0 ∨ n = 1 ∧ s.Spent id) :
    n + replacements id s e = 0 ∨ n + replacements id s e = 1 ∧ s'.Spent id := by
  rw [replacements]
  cases hreplaces : e.replacesFor id with
  | true =>
      obtain ⟨hnot, hspent⟩ := spent_of_replacesFor hknown honce hreplaces hstep
      have hother : s.expiresNow id e = false := by
        cases e with
        | builds => rfl
        | _ => cases hreplaces
      rcases hn with rfl | ⟨-, hbefore⟩
      · right
        simp [hother, hspent]
      · exact absurd hbefore hnot
  | false =>
      cases hexpires : s.expiresNow id e with
      | true =>
          obtain ⟨hnot, hspent⟩ := spent_of_expiresNow hknown hready hexpires hstep
          rcases hn with rfl | ⟨-, hbefore⟩
          · right
            simp [hspent]
          · exact absurd hbefore hnot
      | false =>
          rcases hn with rfl | ⟨rfl, hbefore⟩
          · exact Or.inl rfl
          · exact Or.inr ⟨rfl, hbefore.step honce hstep⟩

omit [Primitives] in
/-- What the pool knows of ids after `initialize`. -/
theorem known_of_started (hstart : s.Started) : s.Known ∧ s.lostIds = ∅ := by
  have hgrounded := (safe_of_started hstart).grounded
  obtain ⟨pool, built, hcircuits, -, hcounts, -, -, rfl⟩ := hstart
  have hempty : (initialized pool built).pool.rebuildFailureCounts = ∅ :=
    (sameBudget_initialized pool built).counts.trans hcounts
  have hlock := (fits_initialized hcircuits built).2.2.1
  have hfree : ∀ id, ¬ (initialized pool built).Replacing id := not_replacing (by simp [hlock])
  refine ⟨⟨?_, ?_, ?_⟩, ?_⟩
  · intro id hmem
    obtain ⟨k, hlookup⟩ := Option.isSome_iff_exists.mp (AList.lookup_isSome.mpr hmem)
    obtain ⟨t, htask, hid⟩ := hgrounded.onHeap id k hlookup
    exact List.mem_map.mpr ⟨t, List.mem_of_getElem? htask, hid⟩
  · intro id hmem
    rw [hempty] at hmem
    exact absurd hmem (AList.notMem_empty id)
  · exact fun id hreplacing => absurd hreplacing (hfree id)
  · rw [lostIds_of_not_replacing hfree, hempty]
    rfl

/-- In every run after `initialize` in which selections find a circuit that is ready, and
circuits are replaced once, there are never more ready circuits than the size of the pool. -/
theorem card_readyIds_le {s₀ : PoolState} (hstart : s₀.Started) {es : List PoolEvent}
    (hrun : ((system.restrict FindsReady).restrict ReplacesOnce).Run s₀ es s) :
    s.readyIds.card ≤ s₀.pool.poolSize := by
  obtain ⟨-, hlost⟩ := known_of_started hstart
  obtain ⟨pool, built, hcircuits, -, -, -, hlength, hinit⟩ := hstart
  obtain ⟨hfits, hsize, -⟩ := fits_initialized hcircuits built
  rw [← hinit, hlength] at hfits
  have hinv : ∃ size, s.Fits size ∧ size + s.lostIds.card ≤ pool.poolSize := by
    refine hrun.invariant (fun s => ∃ size, s.Fits size ∧ size + s.lostIds.card ≤ pool.poolSize)
      ⟨pool.poolSize, hfits, by simp [hlost]⟩ ?_
    rintro s e t ⟨size, hs, hroom⟩ ⟨honce, hfinds, hstep⟩
    obtain ⟨size', ht, hless⟩ := hs.step honce hfinds hstep
    exact ⟨size', ht, le_trans hless hroom⟩
  obtain ⟨size, hs, hroom⟩ := hinv
  have hcard := Finset.card_le_card hs.ready
  have hbound := hs.bound
  rw [hinit, hsize]
  omega

/-- In such a run every circuit is replaced at most once. -/
theorem replacements_le_one {s₀ : PoolState} (hstart : s₀.Started) {es : List PoolEvent}
    {id : CircuitId} {n : Nat}
    (hcost : ((system.restrict FindsReady).restrict ReplacesOnce).CostRun (replacements id)
      s₀ es n s) : n ≤ 1 := by
  obtain ⟨hknown, -⟩ := known_of_started hstart
  obtain ⟨pool, built, hcircuits, -, -, -, -, hinit⟩ := hstart
  obtain ⟨hfits, -⟩ := fits_initialized hcircuits built
  rw [← hinit] at hfits
  have hinv : (∃ size, s.Fits size) ∧ s.Known ∧ (n = 0 ∨ n = 1 ∧ s.Spent id) := by
    refine hcost.invariant (fun s n => (∃ size, s.Fits size) ∧ s.Known ∧
      (n = 0 ∨ n = 1 ∧ s.Spent id)) ⟨⟨_, hfits⟩, hknown, Or.inl rfl⟩ ?_
    rintro s n e t ⟨⟨size, hs⟩, hids, hn⟩ ⟨honce, hfinds, hstep⟩
    obtain ⟨size', ht, -⟩ := hs.step honce hfinds hstep
    exact ⟨⟨size', ht⟩, hids.step honce hstep, replacements_step hids hs.ready honce hstep hn⟩
  rcases hinv.2.2 with rfl | ⟨rfl, -⟩
  · exact Nat.zero_le 1
  · exact le_refl 1

/-- In every run after `initialize` in which selections find a circuit that is ready, and a
circuit is replaced only while it has its slot or has only failed calls on record, there are
never more ready circuits than the size of the pool, and every circuit is replaced at most once:
it expires, or a call of `replace_circuit` for it succeeds. -/
theorem ready_le_poolSize {s₀ : PoolState} (hstart : s₀.Started) {es : List PoolEvent}
    (hrun : ((system.restrict FindsReady).restrict ReplacesOnce).Run s₀ es s) :
    s.readyIds.card ≤ s₀.pool.poolSize ∧
      ∀ id n, ((system.restrict FindsReady).restrict ReplacesOnce).CostRun (replacements id)
        s₀ es n s → n ≤ 1 :=
  ⟨card_readyIds_le hstart hrun, fun _ _ hcost => replacements_le_one hstart hcost⟩

end

/-! ## A circuit that is replaced twice -/

section

open Reference

/-- Two handlers open streams on the one circuit of a pool, it closes, and both streams
fail: each handler replaces the circuit, and two circuits are ready. -/
theorem not_ready_le_poolSize_twoHandlers :
    ¬ ∀ s₀ es s, Started s₀ → (system.restrict FindsReady).Run s₀ es s →
      s.readyIds.card ≤ s₀.pool.poolSize := by
  intro hclaim
  let built : CircuitTask := CircuitTask.spawn (Circuit.built 1 (OnionKeys.new [] []))
  let once := (onePool.setTask 0 built.openStream).setHandler 0 (.streaming 0 1)
  let twice := (once.setTask 0 built.openStream.openStream).setHandler 1 (.streaming 0 2)
  let closed := built.openStream.openStream.endStream
  let ended := twice.setTask 0 closed
  have hpairs : onePool.pool.circuits.pairs = [(1, 0)] := rfl
  have hrun₁ := run_opens (s := onePool) (h := 0) (t := built) rfl rfl hpairs rfl rfl
  have hrun₂ := run_opens (s := once) (h := 1) (t := built.openStream) rfl rfl hpairs rfl rfl
  have hends : (system.restrict FindsReady).step twice (.reads 0 .ends) ended :=
    ⟨trivial, .reads (t := built.openStream.openStream) rfl trivial (.ends rfl)⟩
  have hrun₃ := run_calls (s := ended) (h := 0) (k := 0) (t := closed) rfl rfl rfl rfl
  let called := (ended.setHandler 0 .holding).startReplace (some 0) 1
  let replaced := called.finishBuild (.replace (some 0) 1) 2 (OnionKeys.new [] []) 0
  have hbuilds : (system.restrict FindsReady).step called
      (.builds (.replace (some 0) 1) (OnionKeys.new [] []) 0) replaced :=
    ⟨trivial, .builds _ 0 rfl⟩
  have hrun₄ := run_calls (s := replaced) (h := 1) (k := 0) (t := closed) rfl rfl rfl rfl
  let again := (replaced.setHandler 1 .holding).startReplace (some 1) 1
  let doubled := again.finishBuild (.replace (some 1) 1) 3 (OnionKeys.new [] []) 0
  have hbuilds' : (system.restrict FindsReady).step again
      (.builds (.replace (some 1) 1) (OnionKeys.new [] []) 0) doubled :=
    ⟨trivial, .builds _ 0 rfl⟩
  have hrun := ((((hrun₁.trans hrun₂).snoc hends).trans hrun₃).snoc hbuilds).trans hrun₄
  have hfew := hclaim onePool _ doubled onePool_started (hrun.snoc hbuilds')
  have htwo : ({2, 3} : Finset CircuitId) ⊆ doubled.readyIds := by
    intro id hmem
    rw [mem_readyIds]
    rcases Finset.mem_insert.mp hmem with rfl | hmem
    · exact ⟨1, _, rfl, rfl, rfl⟩
    · rw [Finset.mem_singleton.mp hmem]
      exact ⟨2, _, rfl, rfl, rfl⟩
  have hcard := Finset.card_le_card htwo
  rw [Finset.card_pair (by decide)] at hcard
  exact absurd (le_trans hcard hfew) (by decide)

/-- Two handlers open streams on the one circuit of a pool, it closes, and both streams fail. The
first handler cannot build a replacement, the second builds one: the circuit has been replaced
once, and one circuit is ready. -/
theorem ready_le_poolSize_secondCall :
    ∃ es s, ((system.restrict FindsReady).restrict ReplacesOnce).Run onePool es s ∧
      ((system.restrict FindsReady).restrict ReplacesOnce).CostRun (replacements 1)
        onePool es 1 s ∧
      s.readyIds.card = 1 ∧ ∀ id n, ((system.restrict FindsReady).restrict ReplacesOnce).CostRun
        (replacements id) onePool es n s → n ≤ 1 := by
  let built : CircuitTask := CircuitTask.spawn (Circuit.built 1 (OnionKeys.new [] []))
  let once := (onePool.setTask 0 built.openStream).setHandler 0 (.streaming 0 1)
  let twice := (once.setTask 0 built.openStream.openStream).setHandler 1 (.streaming 0 2)
  let closed := built.openStream.openStream.endStream
  let ended := twice.setTask 0 closed
  have hpairs : onePool.pool.circuits.pairs = [(1, 0)] := rfl
  have hrun₁ := run_opens (s := onePool) (h := 0) (t := built) rfl rfl hpairs rfl rfl
  have hrun₂ := run_opens (s := once) (h := 1) (t := built.openStream) rfl rfl hpairs rfl rfl
  have hends : (system.restrict FindsReady).step twice (.reads 0 .ends) ended :=
    ⟨trivial, .reads (t := built.openStream.openStream) rfl trivial (.ends rfl)⟩
  have hrun₃ := run_gives_up (s := ended) (h := 0) (k := 0) (t := closed) rfl rfl rfl rfl
  let calling := ended.setHandler 0 (.replacing 1)
  let called := (ended.setHandler 0 .holding).startReplace (some 0) 1
  let failed := called.failBuild (.replace (some 0) 1)
  have hcalls : Step calling (.replaces (some 0) 1) called := step_calls rfl 1
  have hfails : Step called (.fails (.replace (some 0) 1)) failed := .fails rfl
  have hrun₄ := run_gives_up (s := failed) (h := 1) (k := 0) (t := closed) rfl rfl rfl rfl
  let again := failed.setHandler 1 (.replacing 1)
  let recalled := (failed.setHandler 1 .holding).startReplace (some 1) 1
  let replaced := recalled.finishBuild (.replace (some 1) 1) 3 (OnionKeys.new [] []) 0
  have hrecalls : Step again (.replaces (some 1) 1) recalled := step_calls rfl 1
  have hbuilds : Step recalled (.builds (.replace (some 1) 1) (OnionKeys.new [] []) 0) replaced :=
    .builds _ 0 rfl
  have hkeep : ∀ {s e s'}, Step s e s' → s.ReplacesOnce e → s.FindsReady e →
      ((system.restrict FindsReady).restrict ReplacesOnce).step s e s' :=
    fun hstep honce hfinds => ⟨honce, hfinds, hstep⟩
  have hopened := ((hrun₁.trans hrun₂).snoc hends).trans hrun₃
  have hcalling : ((system.restrict FindsReady).restrict ReplacesOnce).Run onePool _ calling :=
    hopened.restrict (by simp [ReplacesOnce, BuildsFresh])
  have hagain : ((system.restrict FindsReady).restrict ReplacesOnce).Run failed _ again :=
    hrun₄.restrict (by simp [ReplacesOnce, BuildsFresh])
  have hslot : (1 : CircuitId) ∈ calling.slotIds := mem_slotIds.mpr ⟨by decide, by decide⟩
  have hlost : (1 : CircuitId) ∈ again.pool.rebuildFailureCounts := by decide
  have hfresh : recalled.ReplacesOnce
      (.builds (.replace (some 1) 1) (OnionKeys.new [] []) 0) := by
    intro id hlock
    cases hlock
    decide
  have hfailed := (hcalling.snoc (hkeep hcalls (Or.inl hslot) trivial)).snoc
    (hkeep hfails trivial trivial)
  have hrecalled := (hfailed.trans hagain).snoc (hkeep hrecalls (Or.inr hlost) trivial)
  have hlast := hkeep hbuilds hfresh trivial
  have hfree : ((system.restrict FindsReady).restrict ReplacesOnce).CostRun (replacements 1)
      onePool _ 0 recalled :=
    hrecalled.costRun_zero (by simp [replacements, expiresNow, PoolEvent.replacesFor])
  have hready : replaced.readyIds = {3} := by decide
  exact ⟨_, replaced, hrecalled.snoc hlast, hfree.snoc hlast, by rw [hready]; rfl,
    (ready_le_poolSize onePool_started (hrecalled.snoc hlast)).2⟩

end

end PoolState

end NoPanic
