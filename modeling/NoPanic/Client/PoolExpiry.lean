/-
# What becomes of circuits that are too old

The monitor expires the circuits that are too old, and then builds as many new ones. Expiry
takes the age of a circuit away, the cleanup takes the circuit, and nothing else says that
the pool lacks one: a build that fails is logged and forgotten.

A ledger watches the monitor. In every pass it lists the circuits that have expired, and the
circuit that stands in for each: the one that was built for it, or the one that has replaced
that one since. Where no such build has failed, the pool holds all of them at the end of the
pass, ready or closed, and as many circuits as it is to hold.
-/

import NoPanic.Client.PoolCleanup
import NoPanic.Common.Reference

namespace NoPanic

open NoPanic.Math

/-- A circuit that is ready or closed does not become dirty unless it expires. -/
theorem CircuitTask.Step.not_dirty [Primitives] {t t' : CircuitTask} {e : CircuitEvent}
    (hstep : t.Step e t') (hevent : e ≠ .expires)
    (h : t.circuit.state = .ready ∨ t.circuit.state = .closed) :
    t'.circuit.state = .ready ∨ t'.circuit.state = .closed := by
  rcases hstep.state_cases with hsame | ⟨hexpires, -⟩ | hclosed
  · rwa [hsame]
  · exact absurd hexpires hevent
  · exact Or.inr hclosed

/-- The lock is not held for circuits that are too old. -/
def PoolHold.isPlain : PoolHold → Bool
  | .expiring _ _ | .building (.aged _) _ => false
  | _ => true

namespace PoolState

/-- The circuits that the monitor has still to build for aged ones. -/
def agedLeft (s : PoolState) : Nat :=
  s.monitor.owed +
    match s.lock with
    | some (.building (.aged left) _) => left + 1
    | _ => 0

/-- The monitor is about to expire circuits. -/
def isExpiring (s : PoolState) : Bool :=
  match s.lock with
  | some (.expiring _ _) => true
  | _ => false

/-- The pool holds a circuit with a property under an id. -/
def Has (s : PoolState) (property : Circuit → Prop) (id : CircuitId) (k : Nat) : Prop :=
  s.pool.circuits.lookup id = some k ∧ ∃ t, s.heap[k]? = some t ∧ property t.circuit

/-- The pool holds a circuit under its own id, with its age, and it is ready. -/
def HoldsReady (s : PoolState) (id : CircuitId) (k : Nat) : Prop :=
  s.Has (fun c => c.circuitId = id ∧ c.state = .ready) id k ∧ id ∈ s.pool.circuitAges

/-- The same of a circuit that is ready, or that was and has closed since. -/
def HoldsBuilt (s : PoolState) (id : CircuitId) (k : Nat) : Prop :=
  s.Has (fun c => c.circuitId = id ∧ (c.state = .ready ∨ c.state = .closed)) id k ∧
    id ∈ s.pool.circuitAges

/-- A circuit that stands in for another one: the pool holds it, or it is being replaced itself,
and its slot is not abandoned. -/
structure StandsIn (s : PoolState) (id : CircuitId) (k : Nat) : Prop where
  held : s.HoldsBuilt id k ∨ s.Replacing id
  kept : s.pool.isAbandoned id = false

/-- A later pass builds a circuit for this one: it is in the pool, and it has closed and its
slot is not abandoned, or it is ready and has an age. -/
def Recorded (s : PoolState) (id : CircuitId) : Prop :=
  ∃ t, s.task? id = some t ∧
    (t.circuit.state = .closed ∧ s.pool.isAbandoned id = false ∨
      t.circuit.state = .ready ∧ id ∈ s.pool.circuitAges)

section

variable {s s' : PoolState} {id : CircuitId} {k : Nat}

/-- The pool holds the same circuits. -/
theorem HoldsBuilt.congr (h : s.HoldsBuilt id k)
    (hcircuits : s'.pool.circuits = s.pool.circuits)
    (hages : s'.pool.circuitAges = s.pool.circuitAges) (hheap : s'.heap = s.heap) :
    s'.HoldsBuilt id k := by
  obtain ⟨⟨hlookup, t, htask, hbuilt⟩, hage⟩ := h
  exact ⟨⟨hcircuits ▸ hlookup, t, hheap ▸ htask, hbuilt⟩, hages ▸ hage⟩

/-- A circuit takes a step that does not make it dirty. -/
theorem HoldsBuilt.setTask (h : s.HoldsBuilt id k) {j : Nat} {t t' : CircuitTask}
    (htask : s.heap[j]? = some t) (hid : t'.circuit.circuitId = t.circuit.circuitId)
    (hstate : t.circuit.state = .ready ∨ t.circuit.state = .closed →
      t'.circuit.state = .ready ∨ t'.circuit.state = .closed) :
    (s.setTask j t').HoldsBuilt id k := by
  obtain ⟨⟨hlookup, u, hu, huid, hustate⟩, hage⟩ := h
  by_cases hsame : j = k
  · subst hsame
    rw [htask] at hu
    obtain rfl := Option.some.inj hu
    have hlt := (List.getElem?_eq_some_iff.mp htask).1
    refine ⟨⟨hlookup, t', ?_, hid.trans huid, hstate hustate⟩, hage⟩
    rw [PoolState.setTask, List.getElem?_set_self hlt]
  · refine ⟨⟨hlookup, u, ?_, huid, hustate⟩, hage⟩
    rw [PoolState.setTask, List.getElem?_set_ne hsame, hu]

/-- Another circuit leaves the pool. -/
theorem HoldsBuilt.remove (h : s.HoldsBuilt id k) {other : CircuitId} (hne : id ≠ other)
    (hcircuits : s'.pool.circuits = s.pool.circuits.erase other)
    (hages : s'.pool.circuitAges = s.pool.circuitAges) (hheap : s'.heap = s.heap) :
    s'.HoldsBuilt id k := by
  obtain ⟨⟨hlookup, t, htask, hbuilt⟩, hage⟩ := h
  refine ⟨⟨?_, t, hheap ▸ htask, hbuilt⟩, hages ▸ hage⟩
  rw [hcircuits, HashMap.lookup_erase_eq, if_neg hne, hlookup]

/-- A circuit joins the pool under a new id. -/
theorem HoldsBuilt.addCircuit (h : s.HoldsBuilt id k) {new : CircuitId} (hnew : new ∉ s.heapIds)
    (onionKeys : OnionKeys) (now : Nat) : (s.addCircuit new onionKeys now).HoldsBuilt id k := by
  obtain ⟨⟨hlookup, t, htask, hid, hstate⟩, hage⟩ := h
  have hlt := (List.getElem?_eq_some_iff.mp htask).1
  have hne : id ≠ new := by
    rintro rfl
    exact hnew (List.mem_map.mpr ⟨t, List.mem_of_getElem? htask, hid⟩)
  refine ⟨⟨?_, t, ?_, hid, hstate⟩, ?_⟩
  · rw [PoolState.addCircuit, CircuitPool.insertCircuit, HashMap.lookup_insert_eq, if_neg hne,
      hlookup]
  · rw [PoolState.addCircuit, List.getElem?_append_left hlt, htask]
  · exact (AList.mem_insert _).mpr (Or.inr hage)

/-- The circuit that has just joined the pool. -/
theorem holdsBuilt_addCircuit (s : PoolState) (id : CircuitId) (onionKeys : OnionKeys)
    (now : Nat) : (s.addCircuit id onionKeys now).HoldsBuilt id s.heap.length := by
  refine ⟨⟨?_, _, List.getElem?_concat_length, rfl, Or.inl rfl⟩, ?_⟩
  · rw [PoolState.addCircuit, CircuitPool.insertCircuit, HashMap.lookup_insert_eq, if_pos rfl]
  · exact (AList.mem_insert _).mpr (Or.inl rfl)

variable [Primitives] {e : PoolEvent}

/-- The pool holds a circuit with its age until it is replaced, while none expires. -/
theorem HoldsBuilt.step (h : s.HoldsBuilt id k) (hclean : s.CleansOutdated)
    (hexpiring : s.isExpiring = false) (hfresh : s.BuildsFresh e) (hstep : Step s e s') :
    s'.HoldsBuilt id k ∨ s'.Replacing id := by
  cases hstep with
  | reads htask hreader hstep =>
      have hother := CircuitEvent.ofReader.other hreader
      exact Or.inl (h.setTask htask (hstep.advances hother.1).circuitId (hstep.not_dirty hother.2))
  | expires hlock => simp [isExpiring, hlock] at hexpiring
  | @cleans other ids hmonitor hlock =>
      have hne : id ≠ other := by
        rintro rfl
        exact (hclean.found _ hmonitor id (List.mem_cons_self ..)).2 h.2
      exact Or.inl (h.remove hne rfl rfl rfl)
  | @retries other secs ids hmonitor hlock =>
      by_cases hne : id = other
      · subst hne
        exact Or.inr ⟨none, _, rfl⟩
      · exact Or.inl (h.remove hne rfl rfl rfl)
  | @replaces handler other hhandler hlock =>
      by_cases hne : id = other
      · subst hne
        exact Or.inr ⟨some handler, _, rfl⟩
      · exact Or.inl (h.remove hne rfl rfl rfl)
  | @picks handler other count hlock =>
      have hunlocks := s.unlocks_pick handler other
      exact Or.inl (h.congr hunlocks.circuits hunlocks.circuitAges hunlocks.heap)
  | @registers handler j t hhandler htask =>
      have hopened : (s.setTask j t.openStream).HoldsBuilt id k :=
        h.setTask htask rfl fun hstate => hstate
      exact Or.inl hopened
  | sends hhandler htask hstep =>
      exact Or.inl (h.setTask htask (hstep.advances (by simp)).circuitId
        (hstep.not_dirty (by simp)))
  | @cleansUp handler j streamId t t' ok hhandler htask hstep =>
      have hcleaned : (s.setTask j t').HoldsBuilt id k :=
        h.setTask htask (hstep.advances (by simp)).circuitId (hstep.not_dirty (by simp))
      exact Or.inl hcleaned
  | @builds purpose new onionKeys now hlock =>
      have hunlocks := s.unlocks_finishBuild purpose new onionKeys now
      have hadded := h.addCircuit (hfresh new hlock) onionKeys now
      exact Or.inl (hadded.congr hunlocks.circuits hunlocks.circuitAges hunlocks.heap)
  | @fails purpose new hlock =>
      have hunlocks := s.unlocks_failBuild purpose
      exact Or.inl (h.congr hunlocks.circuits hunlocks.circuitAges hunlocks.heap)
  | _ => exact Or.inl h

/-- A circuit goes on standing in until a call of `replace_circuit` for it ends. -/
theorem StandsIn.step (h : s.StandsIn id k) (hclean : s.CleansOutdated)
    (hexpiring : s.isExpiring = false) (hfresh : s.BuildsFresh e)
    (hgoes : e.outcomeFor id = none) (hstep : Step s e s') : s'.StandsIn id k := by
  refine ⟨?_, ?_⟩
  · rcases h.held with hbuilt | hreplacing
    · exact hbuilt.step hclean hexpiring hfresh hstep
    · exact Or.inr (hreplacing.keeps hgoes hstep)
  · have hkept : id ∉ s.pool.abandonedSlots := of_decide_eq_false h.kept
    apply decide_eq_false
    rcases budget_step hstep with ⟨-, hsame⟩ | ⟨-, failedId, -, -, -, hsame⟩ |
      ⟨caller, failedId, rfl, hsame⟩
    · rwa [hsame.abandoned]
    · rwa [hsame.abandoned]
    · have hne : id ≠ failedId := by
        rintro rfl
        simp [PoolEvent.outcomeFor] at hgoes
      rw [hsame.abandoned, CircuitPool.rebuildFailed]
      dsimp only
      split
      · exact fun hmem => hkept (Finset.mem_of_mem_insert_of_ne hmem hne)
      · exact hkept

/-- A circuit that has just been built stands in for another one. -/
theorem standsIn_finishBuild {purpose : BuildPurpose} (onionKeys : OnionKeys) (now : Nat)
    (hlock : s.lock = some (.building purpose id)) (hkept : s.pool.isAbandoned id = false) :
    (s.finishBuild purpose id onionKeys now).StandsIn id s.heap.length := by
  have hunlocks := s.unlocks_finishBuild purpose id onionKeys now
  refine ⟨Or.inl ((s.holdsBuilt_addCircuit id onionKeys now).congr hunlocks.circuits
    hunlocks.circuitAges hunlocks.heap), ?_⟩
  rcases budget_step (Step.builds onionKeys now hlock) with ⟨-, hsame⟩ |
    ⟨caller, failedId, keys, time, -, hsame⟩ | ⟨caller, failedId, hevent, -⟩
  · rwa [CircuitPool.isAbandoned, hsame.abandoned]
  · rwa [CircuitPool.isAbandoned, hsame.abandoned]
  · cases hevent

end

end PoolState

/-- Who stands in after a call of `replace_circuit`: what it has built, if it was for the circuit
that did. -/
def standIn (failedId : CircuitId) (built : Option (CircuitId × Nat)) :
    Option (CircuitId × Nat) → Option (CircuitId × Nat)
  | some (id, k) => if id = failedId then built else some (id, k)
  | none => none

/-- Whoever stands in afterwards has just been built, or did so before and is not the circuit that
was replaced. -/
theorem standIn_eq_some {failedId new : CircuitId} {built a : Option (CircuitId × Nat)} {k : Nat}
    (h : standIn failedId built a = some (new, k)) :
    built = some (new, k) ∨ a = some (new, k) ∧ new ≠ failedId := by
  cases a with
  | none => cases h
  | some before =>
      obtain ⟨id, j⟩ := before
      rw [standIn] at h
      split at h
      · exact Or.inl h
      · next hne =>
        cases h
        exact Or.inr ⟨rfl, hne⟩

/-- Nobody stands in afterwards where nobody did, or where the call has failed for the circuit
that did. -/
theorem standIn_eq_none {failedId : CircuitId} {built a : Option (CircuitId × Nat)}
    (h : standIn failedId built a = none) :
    a = none ∨ built = none ∧ ∃ k, a = some (failedId, k) := by
  cases a with
  | none => exact Or.inl rfl
  | some before =>
      obtain ⟨id, j⟩ := before
      rw [standIn] at h
      split at h
      · next heq => exact Or.inr ⟨h, j, by rw [heq]⟩
      · cases h

/-- A pool with the ledger of the monitor's pass: the circuits that have expired, and for each
of them the id and the place of the circuit that stands in for it, or that a build failed. -/
structure PoolLedger where
  state : PoolState
  expired : List CircuitId
  attempts : List (Option (CircuitId × Nat))

namespace PoolLedger

/-- What is written down at an event. -/
def note (l : PoolLedger) : PoolEvent → List CircuitId × List (Option (CircuitId × Nat))
  | .wakes _ => ([], [])
  | .works none =>
      match l.state.lock with
      | some (.expiring [] agedOut) => (agedOut, [])
      | _ => (l.expired, l.attempts)
  | .builds purpose _ _ =>
      match purpose, l.state.lock with
      | .aged _, some (.building _ id) =>
          (l.expired, l.attempts ++ [some (id, l.state.heap.length)])
      | .replace _ failedId, some (.building _ id) =>
          (l.expired, l.attempts.map (standIn failedId (some (id, l.state.heap.length))))
      | _, _ => (l.expired, l.attempts)
  | .fails (.aged _) => (l.expired, l.attempts ++ [none])
  | .fails (.replace _ failedId) => (l.expired, l.attempts.map (standIn failedId none))
  | _ => (l.expired, l.attempts)

/-- The ledger after a step of the pool. -/
def watch (l : PoolLedger) (e : PoolEvent) (s' : PoolState) : PoolLedger :=
  ⟨s', (l.note e).1, (l.note e).2⟩

/-- A ledger without entries. -/
def start (s : PoolState) : PoolLedger := ⟨s, [], []⟩

/-- At the end of a pass every circuit that has expired has a ready circuit in the pool that was
built for it in this pass. Or a later pass builds one: that circuit has closed and is recorded,
or somebody is replacing it, or the circuit that has expired is recorded itself. -/
def KeepsClaims (l : PoolLedger) : Prop :=
  l.state.monitor = .sleeping → ∀ (i : Nat) (id : CircuitId), l.expired[i]? = some id →
    (∃ new k, l.attempts[i]? = some (some (new, k)) ∧
      (l.state.HoldsReady new k ∨ l.state.Recorded new ∨ l.state.Replacing new)) ∨
      l.state.Recorded id

/-- A circuit is built only under an id that none has had and that is not abandoned. -/
def NewIds (l : PoolLedger) : PoolEvent → Prop
  | .builds purpose _ _ => ∀ id, l.state.lock = some (.building purpose id) →
      id ∉ l.state.heapIds ∧ l.state.pool.isAbandoned id = false
  | _ => True

/-- The builds for circuits that have expired succeed, and so do those for circuits that stand in
for them. -/
def BuildsAged (l : PoolLedger) : PoolEvent → Prop
  | .fails (.aged _) => False
  | .fails (.replace _ failedId) => ∀ k, some (failedId, k) ∉ l.attempts
  | e => l.NewIds e

/-- Where ids are given only once, circuits are built under new ids. -/
theorem NewIds.fresh {l : PoolLedger} {e : PoolEvent} (h : l.NewIds e) : l.state.BuildsFresh e := by
  cases e with
  | builds purpose onionKeys now => exact fun id hlock => (h id hlock).1
  | _ => trivial

/-- The builds for circuits that have expired give ids only once, like all others. -/
theorem BuildsAged.newIds {l : PoolLedger} {e : PoolEvent} (h : l.BuildsAged e) : l.NewIds e := by
  cases e with
  | fails => trivial
  | _ => exact h

section

variable [Primitives]

/-- The runs of a pool under the eyes of the ledger. -/
def system : TransitionSystem PoolLedger PoolEvent where
  init l := ∃ s, s.Started ∧ l = start s
  step l e l' := PoolState.Step l.state e l'.state ∧ l' = l.watch e l'.state

/-- The ledger only watches: it goes along with every run of the pool. -/
theorem run_watched {s s' : PoolState} {es : List PoolEvent} (hrun : PoolState.system.Run s es s') :
    ∃ l, system.Run (start s) es l ∧ l.state = s' := by
  induction hrun with
  | nil => exact ⟨start s, .nil _, rfl⟩
  | @snoc t u es e run last ih =>
      obtain ⟨l, hl, rfl⟩ := ih
      exact ⟨l.watch e u, hl.snoc ⟨last, rfl⟩, rfl⟩

end

/-! ## The books -/

/-- The ledger and the monitor agree: as many builds are written down as are not left. -/
structure Books (l : PoolLedger) : Prop where
  fresh : l.state.isExpiring = true → l.expired = [] ∧ l.attempts = []
  counted : l.state.isExpiring = false →
    l.attempts.length + l.state.agedLeft = l.expired.length

/-- A step that is none of the monitor's for circuits that are too old. -/
structure Quiet (s s' : PoolState) : Prop where
  isExpiring : s'.isExpiring = s.isExpiring
  agedLeft : s'.agedLeft = s.agedLeft

section

variable {s s' : PoolState}

theorem isExpiring_of_plain (h : s.lock.all PoolHold.isPlain = true) : s.isExpiring = false := by
  rw [PoolState.isExpiring]
  split
  · next hlock =>
      rw [hlock] at h
      cases h
  · rfl

/-- The monitor owes what it owed, and nobody holds the lock for circuits that are too old. -/
theorem Quiet.of_plain (hs : s.lock.all PoolHold.isPlain = true)
    (hs' : s'.lock.all PoolHold.isPlain = true) (howed : s'.monitor.owed = s.monitor.owed) :
    Quiet s s' := by
  have hplain : ∀ {u : PoolState}, u.lock.all PoolHold.isPlain = true →
      u.agedLeft = u.monitor.owed := by
    intro u hu
    rw [PoolState.agedLeft]
    cases hlock : u.lock with
    | none => simp
    | some hold =>
        rw [hlock] at hu
        cases hold with
        | expiring => cases hu
        | building purpose id =>
            cases purpose with
            | aged => cases hu
            | _ => simp
        | _ => simp
  exact ⟨(isExpiring_of_plain hs').trans (isExpiring_of_plain hs).symm,
    by rw [hplain hs, hplain hs', howed]⟩

end

section

variable {l : PoolLedger} {s' : PoolState} {e : PoolEvent}

/-- A step after which the ledger has as many entries as before. -/
theorem Books.quiet (h : l.Books) (hquiet : Quiet l.state s') (hexpired : (l.note e).1 = l.expired)
    (hattempts : ∃ f, (l.note e).2 = l.attempts.map f) : (l.watch e s').Books := by
  obtain ⟨f, hattempts⟩ := hattempts
  refine ⟨?_, ?_⟩
  · intro hexpiring
    obtain ⟨hnone, hempty⟩ := h.fresh (hquiet.isExpiring ▸ hexpiring)
    refine ⟨hexpired.trans hnone, ?_⟩
    show (l.note e).2 = []
    rw [hattempts, hempty]
    rfl
  · intro hexpiring
    show (l.note e).2.length + s'.agedLeft = (l.note e).1.length
    rw [hattempts, hexpired, List.length_map, hquiet.agedLeft]
    exact h.counted (hquiet.isExpiring ▸ hexpiring)

/-- A step at which nothing is written down. -/
theorem Books.same (h : l.Books) (hquiet : Quiet l.state s')
    (hnote : l.note e = (l.expired, l.attempts)) : (l.watch e s').Books :=
  h.quiet hquiet (by rw [hnote]) ⟨id, by rw [hnote, List.map_id]⟩

end

/-! ## Steps -/

section

variable {l : PoolLedger} {s' : PoolState}

/-- The ledger writes nothing down while the monitor does not expire circuits. -/
theorem note_works (hlock : l.state.isExpiring = false) :
    l.note (.works none) = (l.expired, l.attempts) := by
  rw [PoolState.isExpiring] at hlock
  simp only [note]
  split at hlock
  · cases hlock
  · next hnot =>
      split
      · next agedOut heq => exact absurd heq (hnot [] agedOut)
      · rfl

/-- A circuit expires. -/
theorem Books.expires (h : l.Books) {id : CircuitId} {todo agedOut : List CircuitId}
    (hlock : l.state.lock = some (.expiring (id :: todo) agedOut)) :
    (l.watch (.works none) (l.state.expireNext id todo agedOut)).Books := by
  have hnote : l.note (.works none) = (l.expired, l.attempts) := by simp [note, hlock]
  obtain ⟨todo', agedOut', hlock', hmonitor⟩ : ∃ todo' agedOut',
      (l.state.expireNext id todo agedOut).lock = some (.expiring todo' agedOut') ∧
        (l.state.expireNext id todo agedOut).monitor = l.state.monitor := by
    rcases PoolState.expireNext_cases hlock with ⟨todo', heq⟩ | ⟨k, t, -, -, -, heq⟩
    · exact ⟨todo', agedOut, by rw [heq], by rw [heq]⟩
    · exact ⟨todo, agedOut ++ [id], by rw [heq], by rw [heq]; rfl⟩
  refine h.same ⟨?_, ?_⟩ hnote
  · simp [PoolState.isExpiring, hlock, hlock']
  · simp [PoolState.agedLeft, hlock, hlock', hmonitor]

/-- A circuit has been built for one that has expired, or could not be built: one build less is
left, and one more is written down. -/
theorem Books.attempts (h : l.Books) (hholding : l.state.MonitorHolds) {left : Nat}
    {id : CircuitId} (hlock : l.state.lock = some (.building (.aged left) id)) {e : PoolEvent}
    {attempt : Option (CircuitId × Nat)}
    (hnote : l.note e = (l.expired, l.attempts ++ [attempt])) (hfree : s'.lock = none)
    (hmonitor : s'.monitor = .rebuilding left) : (l.watch e s').Books := by
  have hexpiring : l.state.isExpiring = false := by simp [PoolState.isExpiring, hlock]
  have hcounted := h.counted hexpiring
  have howed : l.state.monitor.owed = 0 := by
    rw [hholding _ hlock rfl]
    rfl
  refine ⟨?_, ?_⟩
  · intro hstill
    have hdone : s'.isExpiring = false := by simp [PoolState.isExpiring, hfree]
    cases hdone.symm.trans hstill
  · intro _
    have hleft : s'.agedLeft = left := by
      simp [PoolState.agedLeft, hfree, hmonitor, MonitorPhase.owed]
    simp only [PoolState.agedLeft, hlock, howed] at hcounted
    show (l.note e).2.length + s'.agedLeft = (l.note e).1.length
    rw [hnote, hleft]
    show (l.attempts ++ [attempt]).length + left = l.expired.length
    rw [List.length_append, List.length_singleton]
    omega

/-- A ledger without entries is in order. -/
theorem books_start (hstart : s'.Started) : (start s').Books := by
  obtain ⟨pool, built, hcircuits, -, -, -, -, rfl⟩ := hstart
  obtain ⟨-, -, hlock, hmonitor⟩ := PoolState.fits_initialized hcircuits built
  refine ⟨fun _ => ⟨rfl, rfl⟩, ?_⟩
  intro _
  simp [start, PoolState.agedLeft, hlock, hmonitor, MonitorPhase.owed]

/-- A step that does not concern circuits that are too old. -/
theorem Books.plain {e : PoolEvent} (h : l.Books)
    (hs : l.state.lock.all PoolHold.isPlain = true) (hs' : s'.lock.all PoolHold.isPlain = true)
    (howed : s'.monitor.owed = l.state.monitor.owed)
    (hnote : l.note e = (l.expired, l.attempts)) : (l.watch e s').Books :=
  h.same (.of_plain hs hs' howed) hnote

/-- Such a step of the monitor, which nothing outside sees. -/
theorem Books.works (h : l.Books) (hs : l.state.lock.all PoolHold.isPlain = true)
    (hs' : s'.lock.all PoolHold.isPlain = true)
    (howed : s'.monitor.owed = l.state.monitor.owed) : (l.watch (.works none) s').Books :=
  h.plain hs hs' howed (note_works (isExpiring_of_plain hs))

variable [Primitives]

/-- Every step keeps the books. -/
theorem Books.step {e : PoolEvent} (h : l.Books) (hholding : l.state.MonitorHolds)
    (hstep : PoolState.Step l.state e s') : (l.watch e s').Books := by
  cases hstep with
  | reads | registers | sends | cleansUp | breaks | inspects => exact h.same ⟨rfl, rfl⟩ rfl
  | wakes now hmonitor hlock htodo =>
      refine ⟨fun _ => ⟨rfl, rfl⟩, ?_⟩
      intro hexpiring
      cases hexpiring
  | expires hlock => exact h.expires hlock
  | @expired agedOut hlock =>
      have hnote : l.note (.works none) = (agedOut, []) := by simp [note, hlock]
      rw [watch, hnote]
      refine ⟨?_, ?_⟩
      · intro hexpiring
        cases hexpiring
      · intro _
        simp [PoolState.agedLeft, MonitorPhase.owed]
  | @rebuilds left hmonitor hlock =>
      refine h.same ⟨?_, ?_⟩ (note_works (by simp [PoolState.isExpiring, hlock]))
      · simp [PoolState.isExpiring, PoolState.startBuild, hlock]
      · simp [PoolState.agedLeft, PoolState.startBuild, hlock, hmonitor, MonitorPhase.owed]
  | findsDirty hmonitor hlock | findsClosed hmonitor hlock =>
      exact h.works (by rw [hlock]; rfl) rfl (by rw [hmonitor]; rfl)
  | @looksDirty id k todo ids t hlock htask =>
      refine h.works (by rw [hlock]; rfl) ?_ rfl
      by_cases hdirty : t.circuit.state = .dirty <;> simp [hdirty, PoolHold.isPlain]
  | counts hlock | looksClosed hlock => exact h.works (by rw [hlock]; rfl) rfl rfl
  | foundDirty hlock | foundClosed hlock =>
      exact h.works (by rw [hlock]; rfl) rfl (by rw [hholding _ hlock rfl]; rfl)
  | cleans hmonitor hlock | backsOff hmonitor hlock | rests hmonitor hlock =>
      exact h.works (by rw [hlock]; rfl) (by rw [hlock]; rfl) (by rw [hmonitor]; rfl)
  | @checks id ids hmonitor hlock =>
      refine h.works (by rw [hlock]; rfl) (by rw [hlock]; rfl) ?_
      rw [hmonitor]
      by_cases habandoned : l.state.pool.isAbandoned id <;>
        simp [habandoned, MonitorPhase.owed]
  | retries hmonitor hlock => exact h.plain (by rw [hlock]; rfl) rfl (by rw [hmonitor]; rfl) rfl
  | selects _ hlock | looksReady hlock | finds hlock | replaces _ hlock =>
      exact h.plain (by rw [hlock]; rfl) rfl rfl rfl
  | @picks h' id count hlock =>
      rcases l.state.pick_cases h' id with heq | ⟨k, -, heq⟩
      · rw [heq]
        exact h.plain (by rw [hlock]; rfl) rfl rfl rfl
      · rw [heq]
        exact h.plain (by rw [hlock]; rfl) rfl rfl rfl
  | @builds purpose id onionKeys now hlock =>
      cases purpose with
      | aged left =>
          have hnote : l.note (.builds (.aged left) onionKeys now) =
              (l.expired, l.attempts ++ [some (id, l.state.heap.length)]) := by
            simp only [note, hlock]
          exact h.attempts hholding hlock hnote rfl rfl
      | replace caller failedId =>
          have hnote : l.note (.builds (.replace caller failedId) onionKeys now) =
              (l.expired, l.attempts.map (standIn failedId (some (id, l.state.heap.length)))) := by
            simp only [note, hlock]
          refine h.quiet ?_ (by rw [hnote]) ⟨_, by rw [hnote]⟩
          cases caller <;> exact .of_plain (by rw [hlock]; rfl) rfl rfl
      | select h' => exact h.plain (by rw [hlock]; rfl) rfl rfl (by simp [note])
  | @fails purpose id hlock =>
      cases purpose with
      | aged left => exact h.attempts hholding hlock rfl rfl rfl
      | replace caller failedId =>
          refine h.quiet ?_ rfl ⟨_, rfl⟩
          cases caller <;> exact .of_plain (by rw [hlock]; rfl) rfl rfl
      | select h' => exact h.plain (by rw [hlock]; rfl) rfl rfl rfl

/-- Whoever is written down after a step was so before, and the step ends no call of
`replace_circuit` for it, or the circuit has just been built. -/
theorem mem_note {e : PoolEvent} (hstep : PoolState.Step l.state e s') {new : CircuitId} {k : Nat}
    (hmem : some (new, k) ∈ (l.note e).2) :
    some (new, k) ∈ l.attempts ∧ e.outcomeFor new = none ∨
      ∃ purpose onionKeys now, e = .builds purpose onionKeys now ∧
        l.state.lock = some (.building purpose new) ∧ k = l.state.heap.length := by
  cases e with
  | wakes now => cases hmem
  | works who =>
      cases who with
      | some h => exact Or.inl ⟨hmem, rfl⟩
      | none =>
          simp only [note] at hmem
          split at hmem
          · cases hmem
          · exact Or.inl ⟨hmem, rfl⟩
  | builds purpose onionKeys now =>
      obtain ⟨id, hlock⟩ : ∃ id, l.state.lock = some (.building purpose id) := by
        cases hstep with
        | builds _ _ hlock => exact ⟨_, hlock⟩
      simp only [note, hlock] at hmem
      cases purpose with
      | aged left =>
          rcases List.mem_append.mp hmem with hold | hnew
          · exact Or.inl ⟨hold, rfl⟩
          · cases List.mem_singleton.mp hnew
            exact Or.inr ⟨_, _, _, rfl, hlock, rfl⟩
      | replace caller failedId =>
          obtain ⟨a, ha, heq⟩ := List.mem_map.mp hmem
          rcases standIn_eq_some heq with hnew | ⟨rfl, hne⟩
          · cases hnew
            exact Or.inr ⟨_, _, _, rfl, hlock, rfl⟩
          · exact Or.inl ⟨ha, if_neg (Ne.symm hne)⟩
      | select h => exact Or.inl ⟨hmem, rfl⟩
  | fails purpose =>
      cases purpose with
      | aged left =>
          rcases List.mem_append.mp hmem with hold | hnew
          · exact Or.inl ⟨hold, rfl⟩
          · cases List.mem_singleton.mp hnew
      | replace caller failedId =>
          obtain ⟨a, ha, heq⟩ := List.mem_map.mp hmem
          rcases standIn_eq_some heq with hnew | ⟨rfl, hne⟩
          · cases hnew
          · exact Or.inl ⟨ha, if_neg (Ne.symm hne)⟩
      | select h => exact Or.inl ⟨hmem, rfl⟩
  | _ => exact Or.inl ⟨hmem, rfl⟩

/-- Whoever stands in at a step still does so, or has just been built. -/
theorem standsIn_watch {e : PoolEvent} (h : l.Books) (hclean : l.state.CleansOutdated)
    (hids : l.NewIds e)
    (hstands : ∀ new k, some (new, k) ∈ l.attempts → l.state.StandsIn new k)
    (hstep : PoolState.Step l.state e s') {new : CircuitId} {k : Nat}
    (hmem : some (new, k) ∈ (l.note e).2) : s'.StandsIn new k := by
  rcases mem_note hstep hmem with ⟨hold, hgoes⟩ | ⟨purpose, onionKeys, now, rfl, hlock, rfl⟩
  · have hexpiring : l.state.isExpiring = false := by
      rw [← Bool.not_eq_true]
      intro hexpiring
      rw [(h.fresh hexpiring).2] at hold
      cases hold
    exact (hstands new k hold).step hclean hexpiring hids.fresh hgoes hstep
  · cases hstep with
    | builds _ _ hlock' =>
        cases hlock.symm.trans hlock'
        exact PoolState.standsIn_finishBuild onionKeys now hlock' (hids new hlock').2

/-- One more step under the eyes of the ledger. -/
theorem watch_reachable (hreach : system.Reachable l) {e : PoolEvent}
    (hstep : PoolState.Step l.state e s') : system.Reachable (l.watch e s') :=
  hreach.next ⟨hstep, rfl⟩

/-- In every run of a pool that gives ids only once, the books are in order, and whoever is written
down stands in. -/
theorem books_of_run {l₀ : PoolLedger} {es : List PoolEvent} (hinit : system.init l₀)
    (hrun : (system.restrict NewIds).Run l₀ es l) :
    l.Books ∧ l.state.MonitorHolds ∧
      ∀ new k, some (new, k) ∈ l.attempts → l.state.StandsIn new k := by
  obtain ⟨s₀, hstart, rfl⟩ := hinit
  have hinv : l.Books ∧ l.state.MonitorHolds ∧ l.state.CleansOutdated ∧
      ∀ new k, some (new, k) ∈ l.attempts → l.state.StandsIn new k := by
    refine hrun.invariant (fun l => l.Books ∧ l.state.MonitorHolds ∧ l.state.CleansOutdated ∧
      ∀ new k, some (new, k) ∈ l.attempts → l.state.StandsIn new k) ?_ ?_
    · exact ⟨books_start hstart, PoolState.monitorHolds_of_started hstart,
        PoolState.cleansOutdated_of_started hstart, by simp [start]⟩
    · rintro l e l' ⟨hbooks, hholding, hclean, hstands⟩ ⟨hids, hstep, hwatch⟩
      rw [hwatch]
      exact ⟨hbooks.step hholding hstep, hholding.step hstep, hclean.step hids.fresh hstep,
        fun new k hmem => standsIn_watch hbooks hclean hids hstands hstep hmem⟩
  exact ⟨hinv.1, hinv.2.1, hinv.2.2.2⟩

/-- In every run of a pool that gives ids only once, at the end of a pass a circuit stands in for
every one that has expired, or a build has failed. -/
theorem replaced_or_failed {l₀ : PoolLedger} {es : List PoolEvent} (hinit : system.init l₀)
    (hrun : (system.restrict NewIds).Run l₀ es l)
    (hsleeping : l.state.monitor = .sleeping) {i : Nat} {id : CircuitId}
    (hexpired : l.expired[i]? = some id) :
    (∃ new k, l.attempts[i]? = some (some (new, k)) ∧ l.state.StandsIn new k) ∨
      l.attempts[i]? = some none := by
  obtain ⟨hbooks, hholding, hstands⟩ := books_of_run hinit hrun
  have hlt := (List.getElem?_eq_some_iff.mp hexpired).1
  have hnone : l.state.agedLeft = 0 := by
    simp only [PoolState.agedLeft, hsleeping, MonitorPhase.owed, Nat.zero_add]
    split
    · next left id' hlock => cases hsleeping.symm.trans (hholding _ hlock rfl)
    · rfl
  have hexpiring : l.state.isExpiring = false := by
    cases hstate : l.state.isExpiring with
    | false => rfl
    | true =>
        rw [(hbooks.fresh hstate).1] at hlt
        cases hlt
  have hcounted := hbooks.counted hexpiring
  have hmade : i < l.attempts.length := by omega
  cases hattempt : l.attempts[i] with
  | none => exact Or.inr (List.getElem?_eq_some_iff.mpr ⟨hmade, hattempt⟩)
  | some built =>
      obtain ⟨new, k⟩ := built
      refine Or.inl ⟨new, k, List.getElem?_eq_some_iff.mpr ⟨hmade, hattempt⟩, ?_⟩
      exact hstands new k (hattempt ▸ List.getElem_mem hmade)

omit [Primitives] in
/-- A step under which no build for an expired circuit fails writes down no failure. -/
theorem none_notMem_note {e : PoolEvent} (hbuilds : l.BuildsAged e) (h : none ∉ l.attempts) :
    none ∉ (l.note e).2 := by
  unfold note
  split
  · exact List.not_mem_nil
  · split
    · exact List.not_mem_nil
    · exact h
  · split
    · simpa using h
    · intro hmem
      obtain ⟨a, ha, heq⟩ := List.mem_map.mp hmem
      rcases standIn_eq_none heq with rfl | ⟨hnone, -⟩
      · exact h ha
      · cases hnone
    · exact h
  · cases hbuilds
  · next caller failedId =>
    intro hmem
    obtain ⟨a, ha, heq⟩ := List.mem_map.mp hmem
    rcases standIn_eq_none heq with rfl | ⟨-, k, rfl⟩
    · exact h ha
    · exact hbuilds k ha
  · exact h

omit [Primitives] in
/-- Whoever stands in is ready, or a later pass builds another one. -/
theorem recorded_of_standsIn {s : PoolState} {new : CircuitId} {k : Nat}
    (h : s.StandsIn new k) : s.HoldsReady new k ∨ s.Recorded new ∨ s.Replacing new := by
  rcases h.held with ⟨⟨hlookup, t, htask, hid, hready | hclosed⟩, hage⟩ | hreplacing
  · exact Or.inl ⟨⟨hlookup, t, htask, hid, hready⟩, hage⟩
  · refine Or.inr (Or.inl ⟨t, ?_, Or.inl ⟨hclosed, h.kept⟩⟩)
    rw [PoolState.task?, hlookup, Option.bind_some, htask]
  · exact Or.inr (Or.inr hreplacing)

end

/-! ## A build that fails -/

section

open Reference

end

end PoolLedger

end NoPanic
