/-
# What the cleanup of the monitor removes

A circuit becomes dirty when it expires, and expiry takes its age away. The monitor looks for
dirty circuits in the pool and then removes those it has found. So the cleanup never removes a
circuit that has its age, and in particular none that has just been built, as long as circuits
are built under new ids.

A circuit with its age is ready or has closed. While every rebuild succeeds, the circuits with
their ages and the ones that the pool has still to build for others are never fewer than the
size of the pool.
-/

import NoPanic.Client.PoolSize

namespace NoPanic

open NoPanic.Math

/-- The states of a circuit that has been built. -/
def Circuit.InService (c : Circuit) : Prop :=
  c.state = .ready ∨ c.state = .dirty ∨ c.state = .closed

/-- What a step of a circuit does to its state: it stays, or the circuit expires, or it
closes. -/
theorem CircuitTask.Step.state_cases [Primitives] {t t' : CircuitTask} {e : CircuitEvent}
    (hstep : t.Step e t') :
    t'.circuit.state = t.circuit.state ∨ e = .expires ∧ t'.circuit.state = .dirty ∨
      t'.circuit.state = .closed := by
  cases hstep with
  | allocates | registers | unregisters => exact Or.inl rfl
  | sends streamId command data entryWriter =>
      exact Or.inl (sendMessage_frame t.circuit streamId command data entryWriter).2.1
  | expires =>
      by_cases hready : t.circuit.state = .ready
      · rw [expire, if_pos hready]
        exact Or.inr (Or.inl ⟨rfl, rfl⟩)
      · rw [expire, if_neg hready]
        exact Or.inl rfl
  | receives msg hreading =>
      cases haccept : t.circuit.onionKeys.backwardEnd.accept? msg with
      | none => exact Or.inr (Or.inr (receive_of_not_accept haccept).1)
      | some out => exact Or.inl (receive_of_accept haccept).2.1
  | ends | finishes => exact Or.inr (Or.inr rfl)

/-- A circuit becomes dirty only when it expires. -/
theorem CircuitTask.Step.dirty [Primitives] {t t' : CircuitTask} {e : CircuitEvent}
    (hstep : t.Step e t') (hevent : e ≠ .expires) (hdirty : t'.circuit.state = .dirty) :
    t.circuit.state = .dirty := by
  rcases hstep.state_cases with hsame | ⟨hexpires, -⟩ | hclosed
  · exact hsame.symm.trans hdirty
  · exact absurd hexpires hevent
  · cases hclosed.symm.trans hdirty

/-- A circuit in service stays so. -/
theorem CircuitTask.Step.inService [Primitives] {t t' : CircuitTask} {e : CircuitEvent}
    (hstep : t.Step e t') (h : t.circuit.InService) : t'.circuit.InService := by
  rcases hstep.state_cases with hsame | ⟨-, hdirty⟩ | hclosed
  · rwa [Circuit.InService, hsame]
  · exact Or.inr (Or.inl hdirty)
  · exact Or.inr (Or.inr hclosed)

/-- The circuits that the holder of the lock has still to build for others. -/
def PoolHold.promised : PoolHold → Nat
  | .building (.select _) _ => 0
  | hold => hold.owed

/-- A rebuild that has failed. -/
def PoolEvent.failsRebuild : PoolEvent → Bool
  | .fails (.aged _) | .fails (.replace _ _) => true
  | _ => false

namespace PoolState

/-- The circuits that are still to be built for others. -/
def promised (s : PoolState) : Nat := s.lock.elim 0 PoolHold.promised + s.monitor.owed

/-- An id that has been given to a circuit, and the pool has no age for it. -/
def Outdated (s : PoolState) (id : CircuitId) : Prop :=
  id ∈ s.heapIds ∧ id ∉ s.pool.circuitAges

/-- What a search for dirty circuits knows. -/
def SearchOk (s : PoolState) : PoolHold → Prop
  | .findingDirty todo ids => s.Agrees todo ∧ ∀ id ∈ ids, s.Outdated id
  | .counting id _ todo ids => s.Agrees todo ∧ ∀ other ∈ id :: ids, s.Outdated other
  | _ => True

/-- The invariant: dirty circuits have no age, and the monitor has found only such. -/
structure CleansOutdated (s : PoolState) : Prop where
  owns : s.Owns
  inService : ∀ t ∈ s.heap, t.circuit.InService
  given : ∀ id ∈ s.pool.circuits, id ∈ s.heapIds
  dirty : ∀ id k t, s.pool.circuits.lookup id = some k → s.heap[k]? = some t →
    t.circuit.state = .dirty → id ∉ s.pool.circuitAges
  search : ∀ hold, s.lock = some hold → s.SearchOk hold
  found : ∀ ids, s.monitor = .cleaning ids → ∀ id ∈ ids, s.Outdated id

section

variable {s s' : PoolState} {id : CircuitId}

/-- What a search knows stays true while the pool keeps its circuits. -/
theorem SearchOk.keeps {hold : PoolHold} (h : s.SearchOk hold)
    (hcircuits : s'.pool.circuits = s.pool.circuits)
    (hout : ∀ id, s.Outdated id → s'.Outdated id) : s'.SearchOk hold := by
  have hagrees : ∀ {todo}, s.Agrees todo → s'.Agrees todo := by
    intro todo hagrees id k hmem
    rw [hcircuits]
    exact hagrees id k hmem
  cases hold with
  | findingDirty todo ids => exact ⟨hagrees h.1, fun id hid => hout id (h.2 id hid)⟩
  | counting id k todo ids => exact ⟨hagrees h.1, fun other hid => hout other (h.2 other hid)⟩
  | _ => trivial

/-- All circuits are ready after `initialize`. -/
theorem ready_of_started (hstart : s.Started) : ∀ t ∈ s.heap, t.circuit.state = .ready := by
  obtain ⟨pool, built, -, -, -, -, -, rfl⟩ := hstart
  induction built using List.reverseRecOn with
  | nil =>
      intro t hmem
      cases hmem
  | append_singleton built last ih =>
      rw [initialized, List.foldl_append]
      intro t hmem
      rcases List.mem_append.mp hmem with hold | hnew
      · exact ih t hold
      · rw [List.mem_singleton.mp hnew]
        rfl

/-- After `initialize` there is nothing to clean up. -/
theorem cleansOutdated_of_started (hstart : s.Started) : s.CleansOutdated := by
  have hknown := (known_of_started hstart).1
  have howns := (owns_agesHeld_of_started hstart).1
  have hready := ready_of_started hstart
  obtain ⟨pool, built, hcircuits, -, -, -, -, rfl⟩ := hstart
  obtain ⟨-, -, hlock, hmonitor⟩ := fits_initialized hcircuits built
  refine ⟨howns, fun t hmem => Or.inl (hready t hmem), hknown.circuits, ?_, ?_, ?_⟩
  · rintro id k t - htask hdirty
    cases (hready t (List.mem_of_getElem? htask)).symm.trans hdirty
  · intro hold hheld
    cases hlock.symm.trans hheld
  · intro ids hcleaning
    cases hmonitor.symm.trans hcleaning

variable [Primitives] {e : PoolEvent}

/-- An outdated circuit stays so. -/
theorem Outdated.step (h : s.Outdated id) (hfresh : s.BuildsFresh e) (hstep : Step s e s') :
    s'.Outdated id := by
  obtain ⟨hgiven, hageless⟩ := h
  refine ⟨heapIds_step hstep hgiven, fun hmem => ?_⟩
  rcases (circuits_step hfresh hstep).2 hmem with hold | hnew
  · exact hageless hold
  · exact hnew hgiven

/-- A circuit that is dirty after a step was dirty before, or it expires in this step and its
age goes away. -/
theorem dirty_step (hstep : Step s e s') {k : Nat} {t' : CircuitTask}
    (htask' : s'.heap[k]? = some t') (hdirty : t'.circuit.state = .dirty) :
    (∃ t, s.heap[k]? = some t ∧ t.circuit.state = .dirty) ∨
      ∃ id, s.pool.circuits.lookup id = some k ∧
        s'.pool.circuitAges = s.pool.circuitAges.erase id := by
  have hsame : s.heap[k]? = some t' → (∃ t, s.heap[k]? = some t ∧ t.circuit.state = .dirty) ∨
      ∃ id, s.pool.circuits.lookup id = some k ∧
        s'.pool.circuitAges = s.pool.circuitAges.erase id :=
    fun htask => Or.inl ⟨t', htask, hdirty⟩
  have hset : ∀ {j : Nat} {t u : CircuitTask}, s.heap[j]? = some t →
      (s.setTask j u).heap[k]? = some t' →
      (u.circuit.state = .dirty → t.circuit.state = .dirty) →
        (∃ t, s.heap[k]? = some t ∧ t.circuit.state = .dirty) ∨
        ∃ id, s.pool.circuits.lookup id = some k ∧
          s'.pool.circuitAges = s.pool.circuitAges.erase id := by
    intro j t u hold hafter hbefore
    by_cases hj : j = k
    · subst hj
      rw [setTask, List.getElem?_set_self (List.getElem?_eq_some_iff.mp hold).1] at hafter
      cases hafter
      exact Or.inl ⟨t, hold, hbefore hdirty⟩
    · rw [setTask, List.getElem?_set_ne hj] at hafter
      exact hsame hafter
  cases hstep with
  | @reads j e t u hold hreader hstep =>
      exact hset hold htask' (hstep.dirty (CircuitEvent.ofReader.other hreader).2)
  | @expires id todo agedOut hlock =>
      rcases expireNext_cases hlock with ⟨todo', heq⟩ | ⟨j, t, hlookup, hold, hready, heq⟩
      · rw [heq] at htask'
        exact hsame htask'
      · rw [heq] at htask' ⊢
        by_cases hj : j = k
        · subst hj
          exact Or.inr ⟨id, hlookup, rfl⟩
        · have hafter : (s.heap.set j t.expire)[k]? = some t' := htask'
          rw [List.getElem?_set_ne hj] at hafter
          exact Or.inl ⟨t', hafter, hdirty⟩
  | registers hhandler hold => exact hset hold htask' fun hstate => hstate
  | sends hhandler hold hstep => exact hset hold htask' (hstep.dirty (by simp))
  | cleansUp ok hhandler hold hstep => exact hset hold htask' (hstep.dirty (by simp))
  | @picks handler id count hlock =>
      rw [(s.unlocks_pick handler id).heap] at htask'
      exact hsame htask'
  | @builds purpose id onionKeys now hlock =>
      rw [(s.unlocks_finishBuild purpose id onionKeys now).heap, addCircuit] at htask'
      by_cases hlt : k < s.heap.length
      · rw [List.getElem?_append_left hlt] at htask'
        exact hsame htask'
      · rw [List.getElem?_append_right (Nat.not_lt.mp hlt)] at htask'
        cases List.mem_singleton.mp (List.mem_of_getElem? htask')
        cases hdirty
  | @fails purpose id hlock =>
      rw [(s.unlocks_failBuild purpose).heap] at htask'
      exact hsame htask'
  | _ => exact hsame htask'

/-- The circuits on the heap stay in service. -/
theorem inService_step (h : ∀ t ∈ s.heap, t.circuit.InService) (hstep : Step s e s') :
    ∀ t ∈ s'.heap, t.circuit.InService := by
  have hset : ∀ {k : Nat} {t t' : CircuitTask}, s.heap[k]? = some t →
      (t.circuit.InService → t'.circuit.InService) →
      ∀ u ∈ (s.setTask k t').heap, u.circuit.InService := by
    intro k t t' htask hkeep u hmem
    rcases List.mem_or_eq_of_mem_set hmem with hold | rfl
    · exact h u hold
    · exact hkeep (h t (List.mem_of_getElem? htask))
  cases hstep with
  | reads htask hreader hstep => exact hset htask hstep.inService
  | expires hlock =>
      rcases expireNext_cases hlock with ⟨todo, heq⟩ | ⟨k, t, -, htask, -, heq⟩
      · rw [heq]
        exact h
      · rw [heq]
        exact hset htask (CircuitTask.Step.expires t).inService
  | registers hhandler htask => exact hset htask fun hservice => hservice
  | sends hhandler htask hstep => exact hset htask hstep.inService
  | cleansUp ok hhandler htask hstep => exact hset htask hstep.inService
  | @picks handler id count hlock =>
      rw [(s.unlocks_pick handler id).heap]
      exact h
  | @builds purpose id onionKeys now hlock =>
      rw [(s.unlocks_finishBuild purpose id onionKeys now).heap, addCircuit]
      intro t hmem
      rcases List.mem_append.mp hmem with hold | hnew
      · exact h t hold
      · rw [List.mem_singleton.mp hnew]
        exact Or.inl rfl
  | @fails purpose id hlock =>
      rw [(s.unlocks_failBuild purpose).heap]
      exact h
  | _ => exact h

/-- What the search knows after a step. -/
theorem CleansOutdated.search_step (h : s.CleansOutdated) (hfresh : s.BuildsFresh e)
    (hstep : Step s e s') : ∀ hold, s'.lock = some hold → s'.SearchOk hold := by
  have hout : ∀ id, s.Outdated id → s'.Outdated id := fun id hid => hid.step hfresh hstep
  intro hold hlock'
  cases hstep with
  | reads | registers | sends | cleansUp | breaks | inspects =>
      exact (h.search hold hlock').keeps rfl hout
  | cleans _ hlock
  | checks _ hlock
  | backsOff _ hlock
  | rests _ hlock =>
      rw [show s.lock = some hold from hlock'] at hlock
      cases hlock
  | expires hlock =>
      rcases expireNext_cases hlock with ⟨todo, heq⟩ | ⟨k, t, -, -, -, heq⟩
      · rw [heq] at hlock'
        cases hlock'
        trivial
      · rw [heq] at hlock'
        cases hlock'
        trivial
  | findsDirty hmonitor hlock htodo =>
      cases hlock'
      refine ⟨?_, by simp⟩
      intro id k hmem
      exact HashMap.mem_pairs.mp (htodo.mem_iff.mp hmem)
  | @looksDirty id k todo ids t hlock htask =>
      obtain ⟨hagrees, hids⟩ : s.SearchOk (.findingDirty ((id, k) :: todo) ids) :=
        h.search _ hlock
      have hlookup := hagrees id k (List.mem_cons_self ..)
      have htodo : s.Agrees todo := fun id k hmem => hagrees id k (List.mem_cons_of_mem _ hmem)
      cases hlock'
      split
      · next hdirty =>
        have hgiven := h.given id (AList.lookup_isSome.mp (by rw [hlookup]; rfl))
        refine ⟨htodo, fun other hmem => hout other ?_⟩
        rcases List.mem_cons.mp hmem with rfl | hmem
        · exact ⟨hgiven, h.dirty other k t hlookup htask hdirty⟩
        · exact hids other hmem
      · exact ⟨htodo, fun other hmem => hout other (hids other hmem)⟩
  | @counts id k todo ids t hlock htask =>
      obtain ⟨htodo, hids⟩ : s.SearchOk (.counting id k todo ids) := h.search _ hlock
      cases hlock'
      refine ⟨htodo, fun other hmem => hout other (hids other ?_)⟩
      split at hmem
      · rcases List.mem_append.mp hmem with hmem | hmem
        · exact List.mem_cons_of_mem _ hmem
        · rw [List.mem_singleton.mp hmem]
          exact List.mem_cons_self ..
      · exact List.mem_cons_of_mem _ hmem
  | @picks handler id count hlock =>
      rw [(s.unlocks_pick handler id).lock] at hlock'
      cases hlock'
  | @builds purpose id onionKeys now hlock =>
      rw [(s.unlocks_finishBuild purpose id onionKeys now).lock] at hlock'
      cases hlock'
  | @fails purpose id hlock =>
      rw [(s.unlocks_failBuild purpose).lock] at hlock'
      cases hlock'
  | expired | foundDirty | foundClosed => cases hlock'
  | _ =>
      cases hlock'
      trivial

/-- What the monitor has found after a step. -/
theorem CleansOutdated.found_step (h : s.CleansOutdated) (hfresh : s.BuildsFresh e)
    (hstep : Step s e s') : ∀ ids, s'.monitor = .cleaning ids → ∀ id ∈ ids, s'.Outdated id := by
  have hout : ∀ id, s.Outdated id → s'.Outdated id := fun id hid => hid.step hfresh hstep
  intro ids hcleaning
  have hsame : s.monitor = .cleaning ids → ∀ id ∈ ids, s'.Outdated id :=
    fun hbefore id hmem => hout id (h.found ids hbefore id hmem)
  cases hstep with
  | wakes | expired | rebuilds | findsDirty | findsClosed | foundClosed | backsOff | retries
  | rests => cases hcleaning
  | checks =>
      dsimp only at hcleaning
      split at hcleaning <;> cases hcleaning
  | @foundDirty found hlock =>
      cases hcleaning
      obtain ⟨-, hids⟩ : s.SearchOk (.findingDirty [] ids) := h.search _ hlock
      exact fun id hmem => hout id (hids id hmem)
  | cleans hmonitor hlock =>
      cases hcleaning
      exact fun id hmem => hout id (h.found _ hmonitor id (List.mem_cons_of_mem _ hmem))
  | expires hlock =>
      rcases expireNext_cases hlock with ⟨todo, heq⟩ | ⟨k, t, -, -, -, heq⟩
      · rw [heq] at hcleaning
        exact hsame hcleaning
      · rw [heq] at hcleaning
        exact hsame hcleaning
  | @picks handler id count hlock =>
      rcases s.pick_cases handler id with heq | ⟨k, -, heq⟩
      · rw [heq] at hcleaning
        exact hsame hcleaning
      · rw [heq] at hcleaning
        exact hsame hcleaning
  | @builds purpose id onionKeys now hlock =>
      cases purpose with
      | aged => cases hcleaning
      | select => exact hsame hcleaning
      | replace caller failedId => cases caller <;> exact hsame hcleaning
  | @fails purpose id hlock =>
      cases purpose with
      | aged => cases hcleaning
      | select => exact hsame hcleaning
      | replace caller failedId => cases caller <;> exact hsame hcleaning
  | _ => exact hsame hcleaning

/-- Every step keeps the invariant. -/
theorem CleansOutdated.step (h : s.CleansOutdated) (hfresh : s.BuildsFresh e)
    (hstep : Step s e s') : s'.CleansOutdated := by
  refine ⟨h.owns.step hstep, inService_step h.inService hstep, ?_, ?_,
    h.search_step hfresh hstep, h.found_step hfresh hstep⟩
  · intro id hmem
    rcases (circuits_step hfresh hstep).1 hmem with hold | ⟨-, hgiven⟩
    · exact heapIds_step hstep (h.given id hold)
    · exact hgiven
  · intro id k t' hlookup' htask' hdirty
    rcases dirty_step hstep htask' hdirty with ⟨t, htask, hbefore⟩ | ⟨other, hother, hages⟩
    · have hlt := (List.getElem?_eq_some_iff.mp htask).1
      have hlookup := (lookup_step hstep hlookup').resolve_right hlt.ne
      have hgiven := h.given id (AList.lookup_isSome.mp (by rw [hlookup]; rfl))
      exact (Outdated.step ⟨hgiven, h.dirty id k t hlookup htask hbefore⟩ hfresh hstep).2
    · have hlt := h.owns.onHeap other k hother
      have hlookup := (lookup_step hstep hlookup').resolve_right hlt.ne
      obtain rfl := h.owns.own id other k hlookup hother
      rw [hages]
      exact fun hmem => (AList.mem_erase.mp hmem).1 rfl

/-! ## The pool does not shrink -/

omit [Primitives] in
/-- A build that ends well adds a circuit with its age, and pays off what was promised. -/
theorem promised_finishBuild {purpose : BuildPurpose} {id : CircuitId} (onionKeys : OnionKeys)
    (now : Nat) (hholding : s.MonitorHolds) (hlock : s.lock = some (.building purpose id))
    (hnew : id ∉ s.pool.circuits) :
    s.slotIds.card + s.promised ≤ (s.finishBuild purpose id onionKeys now).slotIds.card +
      (s.finishBuild purpose id onionKeys now).promised := by
  have hunlocks := s.unlocks_finishBuild purpose id onionKeys now
  have hslots : (s.finishBuild purpose id onionKeys now).slotIds = insert id s.slotIds :=
    slotIds_add id hunlocks.circuits hunlocks.circuitAges
  have hcard : (insert id s.slotIds).card = s.slotIds.card + 1 :=
    Finset.card_insert_of_notMem fun hmem => hnew (mem_slotIds.mp hmem).1
  have hpromised : s.promised ≤ (s.finishBuild purpose id onionKeys now).promised + 1 := by
    cases purpose with
    | aged left =>
        have hmonitor : s.monitor.owed = 0 := by
          rw [hholding _ hlock rfl]
          rfl
        rw [promised, hlock, hmonitor]
        show left + 1 + 0 ≤ 0 + left + 1
        omega
    | replace caller failedId =>
        rw [promised, hlock]
        cases caller <;> exact (show 1 + s.monitor.owed ≤ 0 + s.monitor.owed + 1 by omega)
    | select h =>
        rw [promised, hlock]
        exact Nat.le_succ _
  rw [hslots, hcard]
  omega

/-- Unless a rebuild fails, the circuits with their ages and those that are to be built for others
do not become fewer. -/
theorem promised_step (h : s.CleansOutdated) (hholding : s.MonitorHolds)
    (hfresh : s.BuildsFresh e) (hrebuilds : e.failsRebuild = false) (hstep : Step s e s') :
    s.slotIds.card + s.promised ≤ s'.slotIds.card + s'.promised := by
  have hmonitor : ∀ {hold : PoolHold}, s.lock = some hold → hold.ofMonitor = true →
      s.monitor.owed = 0 := by
    intro hold hlock hofMonitor
    rw [hholding hold hlock hofMonitor]
    rfl
  have hremoves : ∀ {u : PoolState} (id : CircuitId),
      u.pool.circuits = s.pool.circuits.erase id → u.pool.circuitAges = s.pool.circuitAges →
      u.promised = s.promised + 1 → s.slotIds.card + s.promised ≤ u.slotIds.card + u.promised := by
    intro u id hcircuits hages hpromised
    have hcard := Finset.pred_card_le_card_erase (s := s.slotIds) (a := id)
    rw [slotIds_remove id hcircuits hages, hpromised]
    omega
  cases hstep with
  | reads | registers | sends | cleansUp | breaks | inspects => exact le_refl _
  | wakes _ hsleeping hlock =>
      refine Nat.add_le_add_left ?_ _
      simp [promised, hlock, hsleeping, MonitorPhase.owed]
  | @expires id todo agedOut hlock =>
      rcases expireNext_cases hlock with ⟨todo', heq⟩ | ⟨k, t, -, -, -, heq⟩
      · rw [heq]
        refine Nat.add_le_add_left ?_ _
        rw [promised, hlock]
        exact le_refl _
      · have hcard := Finset.pred_card_le_card_erase (s := s.slotIds) (a := id)
        have hslots : (s.expireNext id todo agedOut).slotIds = s.slotIds.erase id :=
          slotIds_forget id (by rw [heq]; rfl) (by rw [heq]; rfl)
        have hpromised : (s.expireNext id todo agedOut).promised = s.promised + 1 := by
          rw [heq, promised, promised, hlock]
          show (agedOut ++ [id]).length + s.monitor.owed = agedOut.length + s.monitor.owed + 1
          rw [List.length_append, List.length_singleton]
          omega
        rw [hslots, hpromised]
        omega
  | @expired agedOut hlock =>
      refine Nat.add_le_add_left ?_ _
      rw [promised, hlock, hmonitor hlock rfl]
      show agedOut.length + 0 ≤ 0 + agedOut.length
      omega
  | rebuilds hphase hlock =>
      refine Nat.add_le_add_left ?_ _
      simp [promised, hlock, hphase, startBuild, PoolHold.promised, PoolHold.owed,
        MonitorPhase.owed]
  | findsDirty hphase hlock | findsClosed hphase hlock =>
      refine Nat.add_le_add_left ?_ _
      simp [promised, hlock, hphase, MonitorPhase.owed]
  | looksDirty hlock | counts hlock | looksClosed hlock | foundDirty hlock | foundClosed hlock =>
      refine Nat.add_le_add_left ?_ _
      simp [promised, hlock, hmonitor hlock rfl, PoolHold.promised, PoolHold.owed]
  | @cleans id ids hphase hlock =>
      have hageless := (h.found _ hphase id (List.mem_cons_self ..)).2
      have hnot : id ∉ s.slotIds := fun hmem => hageless (mem_slotIds.mp hmem).2
      have hslots : ({ s with
          pool := s.pool.removeCircuit id
          monitor := .cleaning ids } : PoolState).slotIds = s.slotIds.erase id :=
        slotIds_remove id rfl rfl
      rw [hslots, Finset.erase_eq_of_notMem hnot]
      refine Nat.add_le_add_left ?_ _
      simp [promised, hlock, hphase, MonitorPhase.owed]
  | checks hphase hlock | backsOff hphase hlock | rests hphase hlock =>
      refine Nat.add_le_add_left ?_ _
      simp [promised, hlock, hphase, MonitorPhase.owed]
  | @retries id secs ids hphase hlock =>
      refine hremoves id rfl rfl ?_
      simp [promised, hlock, hphase, startReplace, startBuild, PoolHold.promised, PoolHold.owed,
        MonitorPhase.owed]
  | @replaces handler id hhandler hlock =>
      refine hremoves id rfl rfl ?_
      simp [promised, hlock, startReplace, startBuild, setHandler, PoolHold.promised,
        PoolHold.owed, Nat.add_comm]
  | selects _ hlock | looksReady hlock | finds hlock =>
      refine Nat.add_le_add_left ?_ _
      simp [promised, hlock, PoolHold.promised, PoolHold.owed, startBuild, setHandler]
  | @picks handler id count hlock =>
      have hunlocks := s.unlocks_pick handler id
      have hslots : (s.pick handler id).slotIds = s.slotIds := by
        rw [slotIds, slotIds, hunlocks.circuits, hunlocks.circuitAges]
      rw [hslots]
      refine Nat.add_le_add_left ?_ _
      rcases s.pick_cases handler id with heq | ⟨k, -, heq⟩
      · simp [heq, promised, hlock, setHandler, PoolHold.promised, PoolHold.owed]
      · simp [heq, promised, hlock, setHandler, PoolHold.promised, PoolHold.owed]
  | @builds purpose id onionKeys now hlock =>
      exact promised_finishBuild onionKeys now hholding hlock fun hmem =>
        hfresh id hlock (h.given id hmem)
  | @fails purpose id hlock =>
      cases purpose with
      | aged | replace => cases hrebuilds
      | select handler =>
          refine Nat.add_le_add_left ?_ _
          rw [promised, hlock]
          exact le_refl _

omit [Primitives] in
/-- `initialize` fills the pool, when it gives no id twice. -/
theorem card_slotIds_of_started (hstart : s.Started) (hnodup : s.heapIds.Nodup) :
    s.slotIds.card = s.pool.poolSize := by
  obtain ⟨pool, built, hcircuits, hages, -, -, hlength, rfl⟩ := hstart
  have hsize := (fits_initialized hcircuits built).2.1
  have hinit : (∀ id ∈ (initialized pool built).pool.circuits,
      id ∈ (initialized pool built).heapIds) ∧
      (initialized pool built).slotIds.card = built.length := by
    clear hlength hsize
    induction built using List.reverseRecOn with
    | nil =>
        have hnone : (initialized pool []).pool.circuits = ∅ := hcircuits
        refine ⟨?_, ?_⟩
        · intro id hmem
          rw [hnone] at hmem
          exact absurd hmem (AList.notMem_empty id)
        · rw [slotIds, hnone]
          rfl
    | append_singleton built last ih =>
        let before := initialized pool built
        let id := before.pool.allocateCircuitId.2
        have hlast : initialized pool (built ++ [last]) =
            ({ before with pool := before.pool.allocateCircuitId.1 }).addCircuit id last.1
              last.2 := by
          rw [initialized, List.foldl_append]
          rfl
        have hids : (initialized pool (built ++ [last])).heapIds = before.heapIds ++ [id] := by
          rw [hlast]
          exact List.map_append
        rw [hids, List.nodup_append] at hnodup
        obtain ⟨hgiven, hcard⟩ := ih hnodup.1
        have hnew : id ∉ before.heapIds := fun hmem =>
          hnodup.2.2 id hmem id (List.mem_singleton_self id) rfl
        have hslots : (initialized pool (built ++ [last])).slotIds = insert id before.slotIds := by
          rw [hlast]
          exact slotIds_add id rfl rfl
        refine ⟨?_, ?_⟩
        · intro other hmem
          rw [hids]
          rw [hlast] at hmem
          rcases (AList.mem_insert _).mp hmem with rfl | hold
          · exact List.mem_append_right _ (List.mem_singleton_self _)
          · exact List.mem_append_left _ (hgiven other hold)
        · have hnot : id ∉ before.slotIds := fun hmem => hnew (hgiven id (mem_slotIds.mp hmem).1)
          rw [hslots, Finset.card_insert_of_notMem hnot, hcard, List.length_append,
            List.length_singleton]
  rw [hinit.2, hsize, hlength]

omit [Primitives] in
/-- A circuit with its age is ready or has closed. -/
theorem CleansOutdated.slotIds_subset (h : s.CleansOutdated) :
    s.slotIds ⊆ s.readyIds ∪ s.closedIds := by
  intro id hmem
  obtain ⟨hcircuit, hage⟩ := mem_slotIds.mp hmem
  obtain ⟨k, hlookup⟩ := Option.isSome_iff_exists.mp (AList.lookup_isSome.mpr hcircuit)
  have htask := List.getElem?_eq_getElem (h.owns.onHeap id k hlookup)
  rw [Finset.mem_union, readyIds, closedIds, mem_idsIn, mem_idsIn]
  rcases h.inService _ (List.mem_of_getElem? htask) with hready | hdirty | hclosed
  · exact Or.inl ⟨k, _, hlookup, htask, hready⟩
  · exact absurd hage (h.dirty id k _ hlookup htask hdirty)
  · exact Or.inr ⟨k, _, hlookup, htask, hclosed⟩

/-- In every run after `initialize` in which ids are given only once and no rebuild fails, at the
end of a pass at least as many circuits are ready, or have closed and are still to be replaced, as
the size of the pool. -/
theorem poolSize_le_of_rebuilds {s₀ : PoolState} (hstart : s₀.Started)
    (hnodup : s₀.heapIds.Nodup) {es : List PoolEvent}
    (hrun : (system.restrict BuildsFresh).Run s₀ es s)
    (hrebuilds : ∀ e ∈ es, e.failsRebuild = false) (hsleeping : s.monitor = .sleeping)
    (hidle : ∀ id, ¬ s.Replacing id) :
    s₀.pool.poolSize ≤ s.readyIds.card + s.closedIds.card := by
  have hinv : s.CleansOutdated ∧ s.MonitorHolds ∧
      s₀.slotIds.card ≤ s.slotIds.card + s.promised := by
    revert hrebuilds
    refine hrun.invariant_history (fun s es => (∀ e ∈ es, e.failsRebuild = false) →
      s.CleansOutdated ∧ s.MonitorHolds ∧ s₀.slotIds.card ≤ s.slotIds.card + s.promised)
      (fun _ => ⟨cleansOutdated_of_started hstart, monitorHolds_of_started hstart,
        Nat.le_add_right _ _⟩) ?_
    rintro s es e t - ih ⟨hfresh, hstep⟩ hall
    obtain ⟨hclean, hholding, hle⟩ := ih fun f hf => hall f (List.mem_append_left _ hf)
    have hlast := hall e (List.mem_append_right _ (List.mem_singleton_self e))
    exact ⟨hclean.step hfresh hstep, hholding.step hstep,
      le_trans hle (promised_step hclean hholding hfresh hlast hstep)⟩
  obtain ⟨hclean, hholding, hle⟩ := hinv
  have hnone : s.promised = 0 := by
    rw [promised, hsleeping]
    cases hlock : s.lock with
    | none => rfl
    | some hold =>
        cases hold with
        | building purpose id =>
            cases purpose with
            | aged left => cases hsleeping.symm.trans (hholding _ hlock rfl)
            | replace caller failedId => exact absurd ⟨caller, id, hlock⟩ (hidle failedId)
            | select => rfl
        | expiring => cases hsleeping.symm.trans (hholding _ hlock rfl)
        | _ => rfl
  have hcard := Finset.card_le_card hclean.slotIds_subset
  have hunion := Finset.card_union_le s.readyIds s.closedIds
  rw [← card_slotIds_of_started hstart hnodup]
  omega

end

end PoolState

end NoPanic
