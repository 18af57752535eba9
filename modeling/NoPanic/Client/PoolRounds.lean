/-
# A round of the monitor

A round of the monitor looks at the circuits twice: for dirty circuits without streams, which it
removes, and for closed ones, which it replaces unless their budget is used up. Handlers select
circuits, open streams and replace circuits in between.

The monitor misses nothing: at any time in a round, a circuit of the pool that is to be removed or
replaced has been found or is still to be looked at. When no circuit closes and no stream ends
while a round lasts, only circuits are left at its end that are ready, or dirty and in use, or
closed with their budget used up.
-/

import NoPanic.Client.PoolStreams
import NoPanic.Client.PoolExpiry
import NoPanic.Client.PoolMaps

namespace NoPanic

open NoPanic.Math

/-- A dirty circuit without streams. -/
def Circuit.Worn (c : Circuit) : Prop := c.state = .dirty ∧ c.Idle

/-- The monitor is looking at the circuits. -/
def PoolHold.isScan : PoolHold → Bool
  | .findingDirty _ _ | .counting _ _ _ _ | .findingClosed _ _ => true
  | _ => false

/-- What a monitor that is not looking at the circuits has found of the worn ones. -/
def MonitorPhase.wornLeft : MonitorPhase → Option (List CircuitId × List (CircuitId × Nat))
  | .cleaning ids => some (ids, [])
  | .retrying _ | .backingOff _ _ | .waiting _ _ _ => some ([], [])
  | _ => none

namespace PoolState

/-- What the monitor has found of the worn circuits and what it is still to look at, from its
scan until the end of the round. -/
def wornLeft (s : PoolState) : Option (List CircuitId × List (CircuitId × Nat)) :=
  match s.lock with
  | some (.findingDirty todo ids) => some (ids, todo)
  | some (.counting id k todo ids) => some (ids, (id, k) :: todo)
  | some (.findingClosed _ _) => some ([], [])
  | _ => s.monitor.wornLeft

/-- The monitor has missed no circuit that it is to remove or to replace. -/
structure Covers (s : PoolState) : Prop where
  holding : s.MonitorHolds
  worn : ∀ ids todo, s.wornLeft = some (ids, todo) →
    ∀ id k, s.Has Circuit.Worn id k → id ∈ ids ∨ (id, k) ∈ todo
  closed : ∀ ids todo, s.closedLeft = some (ids, todo) →
    ∀ id k, s.Has Circuit.Closed id k →
      id ∈ ids ∨ (id, k) ∈ todo ∨ id ∈ s.pool.abandonedSlots

/-- While the monitor is not looking at the circuits, its phase says what it has found. -/
theorem left_eq {s : PoolState} (hlock : s.lock.all (fun hold => !hold.isScan) = true) :
    s.wornLeft = s.monitor.wornLeft ∧ s.closedLeft = s.monitor.closedLeft := by
  rw [wornLeft, closedLeft]
  cases hheld : s.lock with
  | none => exact ⟨rfl, rfl⟩
  | some hold =>
      rw [hheld] at hlock
      cases hold with
      | findingDirty | counting | findingClosed => cases hlock
      | _ => exact ⟨rfl, rfl⟩

/-- A circuit with a stream is in use. -/
theorem not_idle_of_insert {c : Circuit} {streams : HashMap StreamId (List Message)}
    {streamId : StreamId} {queued : List Message}
    (hsenders : c.streamSenders = streams.insert streamId queued) : ¬ c.Idle := by
  intro hidle
  rw [Circuit.idle_iff, hsenders] at hidle
  have hlookup := AList.lookup_insert (s := streams) (a := streamId) (b := queued)
  rw [hidle] at hlookup
  cases hlookup

section

variable [Primitives]

/-- The steps that close no circuit and end no stream. -/
def Undisturbed (s : PoolState) : PoolEvent → Prop
  | .reads k e => ∀ t, s.heap[k]? = some t → t.Leaves e → t.circuit.Closed
  | .works (some h) => ∀ k streamId, s.handlers h ≠ .streaming k streamId
  | _ => True

variable {s s' : PoolState} {e : PoolEvent}

/-- Such a step of a reader closes nothing and ends no stream. -/
theorem drained_of_reads {t t' : CircuitTask} {event : CircuitEvent}
    (hquiet : t.Leaves event → t.circuit.Closed) (hreader : event.ofReader)
    (hstep : t.Step event t') :
    (t'.circuit.Closed → t.circuit.Closed) ∧ (t'.circuit.Worn → t.circuit.Worn) := by
  have hother := CircuitEvent.ofReader.other hreader
  by_cases hleaves : t.Leaves event
  · have hclosed := hquiet hleaves
    refine ⟨fun _ => hclosed, ?_⟩
    rintro ⟨hdirty, -⟩
    have hclosed' := (hstep.advances hother.1).closed hclosed
    rw [Circuit.Closed, hdirty] at hclosed'
    cases hclosed'
  · have hstate := hstep.stays hleaves hother.2
    refine ⟨fun hclosed => hstate.symm.trans hclosed, ?_⟩
    rintro ⟨hdirty, hidle⟩
    refine ⟨hstate.symm.trans hdirty, ?_⟩
    cases hstep with
    | receives msg hreading =>
        cases haccept : t.circuit.onionKeys.backwardEnd.accept? msg with
        | none => exact absurd haccept hleaves
        | some out =>
            obtain ⟨-, -, -, -, hsenders⟩ := CircuitTask.receive_of_accept haccept
            split at hsenders
            · rwa [Circuit.idle_iff, hsenders, ← Circuit.idle_iff] at hidle
            · exact absurd hidle (not_idle_of_insert hsenders)
    | ends | finishes => exact absurd trivial hleaves
    | _ => cases hreader

/-- What a circuit is after a step that closes none and ends no stream, it was before, unless it
is new or has just expired. -/
theorem task_step (hquiet : s.Undisturbed e) (hstep : Step s e s') {k : Nat} {t' : CircuitTask}
    (htask : s'.heap[k]? = some t') :
    t'.circuit.state = .ready ∨ ∃ t, s.heap[k]? = some t ∧
      (t'.circuit.Closed → t.circuit.Closed) ∧
      (t'.circuit.Worn → t.circuit.Worn ∨ ∃ id todo agedOut,
        s.lock = some (.expiring (id :: todo) agedOut)) := by
  have hsame : s.heap[k]? = some t' → t'.circuit.state = .ready ∨ ∃ t, s.heap[k]? = some t ∧
      (t'.circuit.Closed → t.circuit.Closed) ∧ (t'.circuit.Worn → t.circuit.Worn ∨
        ∃ id todo agedOut, s.lock = some (.expiring (id :: todo) agedOut)) :=
    fun hbefore => Or.inr ⟨t', hbefore, id, Or.inl⟩
  have hset : ∀ {j : Nat} {t u : CircuitTask}, s.heap[j]? = some t →
      (s.setTask j u).heap[k]? = some t' → (u.circuit.Closed → t.circuit.Closed) →
      (u.circuit.Worn → t.circuit.Worn ∨ ∃ id todo agedOut,
        s.lock = some (.expiring (id :: todo) agedOut)) →
      t'.circuit.state = .ready ∨ ∃ t, s.heap[k]? = some t ∧
        (t'.circuit.Closed → t.circuit.Closed) ∧ (t'.circuit.Worn → t.circuit.Worn ∨
          ∃ id todo agedOut, s.lock = some (.expiring (id :: todo) agedOut)) := by
    intro j t u hold hafter hclosed hworn
    by_cases hk : j = k
    · subst hk
      rw [setTask, List.getElem?_set_self (List.getElem?_eq_some_iff.mp hold).1] at hafter
      cases hafter
      exact Or.inr ⟨t, hold, hclosed, hworn⟩
    · rw [setTask, List.getElem?_set_ne hk] at hafter
      exact hsame hafter
  cases hstep with
  | @reads j event t u hold hreader hstep =>
      obtain ⟨hclosed, hworn⟩ := drained_of_reads (hquiet t hold) hreader hstep
      exact hset hold htask hclosed fun h => Or.inl (hworn h)
  | @expires id todo agedOut hlock =>
      rcases expireNext_cases hlock with ⟨todo', heq⟩ | ⟨j, t, -, hold, hready, heq⟩
      · rw [heq] at htask
        exact hsame htask
      · rw [heq] at htask
        refine hset hold htask ?_ fun _ => Or.inr ⟨id, todo, agedOut, hlock⟩
        intro hclosed
        rw [CircuitTask.expire, if_pos hready] at hclosed
        cases hclosed
  | @registers h j t hhandler hold =>
      refine hset hold htask id fun hworn => ?_
      exact absurd hworn.2 (not_idle_of_insert rfl)
  | @sends h j streamId command data entryWriter t u hhandler hold hstep =>
      cases hstep with
      | sends =>
          obtain ⟨hsenders, hstate, -⟩ :=
            CircuitTask.sendMessage_frame t.circuit streamId command data entryWriter
          refine hset hold htask (fun hclosed => hstate.symm.trans hclosed) ?_
          rintro ⟨hdirty, hidle⟩
          refine Or.inl ⟨hstate.symm.trans hdirty, ?_⟩
          rwa [Circuit.idle_iff, hsenders, ← Circuit.idle_iff] at hidle
  | @cleansUp h j streamId t u ok hhandler hold hstep => exact absurd hhandler (hquiet j streamId)
  | @breaks h j streamId hhandler => exact absurd hhandler (hquiet j streamId)
  | @builds purpose id onionKeys now hlock =>
      rw [(s.unlocks_finishBuild purpose id onionKeys now).heap, addCircuit] at htask
      by_cases hlt : k < s.heap.length
      · rw [List.getElem?_append_left hlt] at htask
        exact hsame htask
      · rw [List.getElem?_append_right (Nat.not_lt.mp hlt)] at htask
        cases List.mem_singleton.mp (List.mem_of_getElem? htask)
        exact Or.inl rfl
  | @fails purpose id hlock =>
      rw [(s.unlocks_failBuild purpose).heap] at htask
      exact hsame htask
  | @picks h id count hlock =>
      rw [(s.unlocks_pick h id).heap] at htask
      exact hsame htask
  | _ => exact hsame htask

/-- A closed circuit of the pool was closed before, and a worn one was worn, unless circuits
expire. -/
theorem has_step (hquiet : s.Undisturbed e) (hstep : Step s e s') {id : CircuitId} {k : Nat} :
    (s'.Has Circuit.Closed id k → s.Has Circuit.Closed id k) ∧
      (s'.Has Circuit.Worn id k → s.Has Circuit.Worn id k ∨ ∃ other todo agedOut,
        s.lock = some (.expiring (other :: todo) agedOut)) := by
  have hbefore : ∀ {t : CircuitTask}, s.heap[k]? = some t →
      s'.pool.circuits.lookup id = some k → s.pool.circuits.lookup id = some k := by
    intro t htask hlookup
    have hlt := (List.getElem?_eq_some_iff.mp htask).1
    exact (lookup_step hstep hlookup).resolve_right hlt.ne
  constructor
  · rintro ⟨hlookup, t', htask', hclosed⟩
    rcases task_step hquiet hstep htask' with hready | ⟨t, htask, hkept, -⟩
    · exact absurd hready (Circuit.Drained.not_ready (Or.inl hclosed))
    · exact ⟨hbefore htask hlookup, t, htask, hkept hclosed⟩
  · rintro ⟨hlookup, t', htask', hworn⟩
    rcases task_step hquiet hstep htask' with hready | ⟨t, htask, -, hkept⟩
    · exact absurd hready (Circuit.Drained.not_ready (Or.inr hworn))
    · exact (hkept hworn).imp_left fun h => ⟨hbefore htask hlookup, t, htask, h⟩

/-- A slot that has been given up stays so. -/
theorem abandonedSlots_step (hstep : Step s e s') :
    s.pool.abandonedSlots ⊆ s'.pool.abandonedSlots := by
  cases hstep with
  | @expires id todo agedOut hlock =>
      rcases expireNext_cases hlock with ⟨todo', heq⟩ | ⟨k, t, -, -, -, heq⟩
      · rw [heq]
      · rw [heq]
        exact subset_rfl
  | @picks h id count hlock =>
      rcases s.pick_cases h id with heq | ⟨k, -, heq⟩
      · rw [heq]
        exact subset_rfl
      · rw [heq]
        exact subset_rfl
  | @builds purpose id onionKeys now hlock =>
      cases purpose with
      | replace caller failedId => cases caller <;> exact subset_rfl
      | _ => exact subset_rfl
  | @fails purpose id hlock =>
      cases purpose with
      | replace caller failedId =>
          have hfailed :
              s.pool.abandonedSlots ⊆ (s.pool.rebuildFailed failedId).abandonedSlots := by
            rw [CircuitPool.rebuildFailed]
            dsimp only
            split
            · exact Finset.subset_insert ..
            · exact subset_rfl
          cases caller <;> exact hfailed
      | _ => exact subset_rfl
  | _ => exact subset_rfl

/-- A step after which the monitor has found the same circuits. -/
theorem Covers.keeps (h : s.Covers) (hquiet : s.Undisturbed e) (hstep : Step s e s')
    (hholding : s'.MonitorHolds) (hworn : s'.wornLeft = none ∨ s'.wornLeft = s.wornLeft)
    (hclosed : s'.closedLeft = none ∨ s'.closedLeft = s.closedLeft) : s'.Covers := by
  refine ⟨hholding, ?_, ?_⟩
  · intro ids todo hleft id k hhas
    have hbefore : s.wornLeft = some (ids, todo) := by
      rcases hworn with hnone | hsame
      · cases hnone.symm.trans hleft
      · exact hsame.symm.trans hleft
    rcases (has_step hquiet hstep).2 hhas with hhas | ⟨other, rest, agedOut, hlock⟩
    · exact h.worn ids todo hbefore id k hhas
    · rw [wornLeft, hlock, h.holding _ hlock rfl] at hbefore
      cases hbefore
  · intro ids todo hleft id k hhas
    have hbefore : s.closedLeft = some (ids, todo) := by
      rcases hclosed with hnone | hsame
      · cases hnone.symm.trans hleft
      · exact hsame.symm.trans hleft
    exact (h.closed ids todo hbefore id k ((has_step hquiet hstep).1 hhas)).imp_right
      (Or.imp_right fun hmem => abandonedSlots_step hstep hmem)

/-- A step of somebody else, with the lock or without. -/
theorem Covers.others (h : s.Covers) (hquiet : s.Undisturbed e) (hstep : Step s e s')
    (hlock : s.lock.all (fun hold => !hold.isScan) = true)
    (hlock' : s'.lock.all (fun hold => !hold.ofMonitor) = true)
    (hmonitor : s'.monitor = s.monitor) : s'.Covers := by
  have hscan : s'.lock.all (fun hold => !hold.isScan) = true := by
    cases hheld : s'.lock with
    | none => rfl
    | some hold =>
        rw [hheld] at hlock'
        cases hold with
        | findingDirty | counting | findingClosed => cases hlock'
        | _ => rfl
  obtain ⟨hworn, hclosed⟩ := left_eq hlock
  obtain ⟨hworn', hclosed'⟩ := left_eq hscan
  rw [hmonitor, ← hworn] at hworn'
  rw [hmonitor, ← hclosed] at hclosed'
  refine h.keeps hquiet hstep ?_ (Or.inr hworn') (Or.inr hclosed')
  intro hold hheld hofMonitor
  rw [hheld] at hlock'
  simp [hofMonitor] at hlock'

/-- While the lock is free or a task holds it that is not looking at the circuits, nobody expires
any. -/
theorem has_worn_before (hquiet : s.Undisturbed e) (hstep : Step s e s') (hlock : s.lock = none)
    {id : CircuitId} {k : Nat} (hhas : s'.Has Circuit.Worn id k) : s.Has Circuit.Worn id k := by
  refine ((has_step hquiet hstep).2 hhas).resolve_right ?_
  rintro ⟨other, todo, agedOut, hheld⟩
  cases hlock.symm.trans hheld

omit [Primitives] in
/-- What the monitor has found when the lock is free. -/
theorem left_of_free {phase : MonitorPhase} (hlock : s.lock = none) (hmonitor : s.monitor = phase) :
    s.wornLeft = phase.wornLeft ∧ s.closedLeft = phase.closedLeft := by
  rw [← hmonitor]
  exact left_eq (by rw [hlock]; rfl)

/-- The pool expires circuits. -/
theorem Covers.expires (h : s.Covers) {id : CircuitId} {todo agedOut : List CircuitId}
    (hlock : s.lock = some (.expiring (id :: todo) agedOut)) :
    (s.expireNext id todo agedOut).Covers := by
  have hstep := Step.expires hlock
  have hmonitor := h.holding _ hlock rfl
  have hworn : s.monitor.wornLeft = none := by rw [hmonitor]; rfl
  have hclosed : s.monitor.closedLeft = none := by rw [hmonitor]; rfl
  rcases expireNext_cases hlock with ⟨todo', heq⟩ | ⟨k, t, -, -, -, heq⟩
  · rw [heq] at hstep ⊢
    exact h.keeps (by trivial) hstep (.of_holding hmonitor) (Or.inl hworn) (Or.inl hclosed)
  · rw [heq] at hstep ⊢
    exact h.keeps (by trivial) hstep (.of_holding hmonitor) (Or.inl hworn) (Or.inl hclosed)

/-- The monitor looks at the state of a circuit. -/
theorem Covers.looksDirty (h : s.Covers) {id : CircuitId} {k : Nat}
    {todo : List (CircuitId × Nat)} {ids : List CircuitId} {t : CircuitTask}
    (hlock : s.lock = some (.findingDirty ((id, k) :: todo) ids)) (htask : s.heap[k]? = some t) :
    ({ s with
      lock := some (if t.circuit.state = .dirty then .counting id k todo ids
        else .findingDirty todo ids) } : PoolState).Covers := by
  have hstep := Step.looksDirty hlock htask
  have hbefore : s.wornLeft = some (ids, (id, k) :: todo) := by rw [wornLeft, hlock]
  have hmonitor := h.holding _ hlock rfl
  have hclosed : s.monitor.closedLeft = none := by rw [hmonitor]; rfl
  by_cases hdirty : t.circuit.state = .dirty
  · rw [if_pos hdirty] at hstep ⊢
    exact h.keeps (by trivial) hstep (.of_holding hmonitor) (Or.inr hbefore.symm) (Or.inl hclosed)
  · rw [if_neg hdirty]
    refine ⟨.of_holding hmonitor, ?_, ?_⟩
    · intro found left hleft other j hhas
      cases hleft
      refine (h.worn ids _ hbefore other j hhas).imp_right fun hmem => ?_
      rcases List.mem_cons.mp hmem with heq | hrest
      · cases heq
        obtain ⟨-, u, hu, hworn⟩ := hhas
        cases htask.symm.trans hu
        exact absurd hworn.1 hdirty
      · exact hrest
    · intro found left hleft
      cases hclosed.symm.trans hleft

omit [Primitives] in
/-- The monitor counts the streams of a dirty circuit. -/
theorem Covers.counts (h : s.Covers) {id : CircuitId} {k : Nat} {todo : List (CircuitId × Nat)}
    {ids : List CircuitId} {t : CircuitTask} (hlock : s.lock = some (.counting id k todo ids))
    (htask : s.heap[k]? = some t) :
    ({ s with
      lock := some (.findingDirty todo
        (if t.circuit.activeStreamCount = 0 then ids ++ [id] else ids)) } : PoolState).Covers := by
  have hbefore : s.wornLeft = some (ids, (id, k) :: todo) := by rw [wornLeft, hlock]
  have hmonitor := h.holding _ hlock rfl
  have hclosed : s.monitor.closedLeft = none := by rw [hmonitor]; rfl
  refine ⟨.of_holding hmonitor, ?_, ?_⟩
  · intro found left hleft other j hhas
    cases hleft
    rcases h.worn ids _ hbefore other j hhas with hfound | hmem
    · refine Or.inl ?_
      split
      · exact List.mem_append_left _ hfound
      · exact hfound
    · rcases List.mem_cons.mp hmem with heq | hrest
      · cases heq
        obtain ⟨-, u, hu, hworn⟩ := hhas
        cases htask.symm.trans hu
        have hidle : t.circuit.activeStreamCount = 0 := hworn.2
        rw [if_pos hidle]
        exact Or.inl (List.mem_append_right _ (List.mem_singleton.mpr rfl))
      · exact Or.inr hrest
  · intro found left hleft
    cases hclosed.symm.trans hleft

/-- The monitor removes a circuit. -/
theorem Covers.cleans (h : s.Covers) {id : CircuitId} {ids : List CircuitId}
    (hmonitor : s.monitor = .cleaning (id :: ids)) (hlock : s.lock = none) :
    ({ s with pool := s.pool.removeCircuit id, monitor := .cleaning ids } : PoolState).Covers := by
  have hbefore := (left_of_free hlock hmonitor).1
  refine ⟨.of_free hlock, ?_, ?_⟩
  · intro found left hleft other j hhas
    rw [wornLeft, hlock] at hleft
    cases hleft
    have hkept := has_worn_before (by trivial) (Step.cleans hmonitor hlock) hlock hhas
    refine (h.worn _ _ hbefore other j hkept).imp_left fun hmem => ?_
    rcases List.mem_cons.mp hmem with rfl | hrest
    · have hgone := hhas.1
      rw [CircuitPool.removeCircuit, HashMap.lookup_erase_eq, if_pos rfl] at hgone
      cases hgone
    · exact hrest
  · intro found left hleft
    rw [closedLeft, hlock] at hleft
    cases hleft

omit [Primitives] in
/-- The monitor begins to look for closed circuits. -/
theorem Covers.findsClosed (h : s.Covers) {todo : List (CircuitId × Nat)}
    (hmonitor : s.monitor = .cleaning []) (hlock : s.lock = none)
    (htodo : todo.Perm s.pool.circuits.pairs) :
    ({ s with lock := some (.findingClosed todo []), monitor := .holding } : PoolState).Covers := by
  have hbefore := (left_of_free hlock hmonitor).1
  refine ⟨.of_holding rfl, ?_, ?_⟩
  · intro found left hleft id k hhas
    cases hleft
    exact h.worn _ _ hbefore id k hhas
  · intro found left hleft id k hhas
    cases hleft
    exact Or.inr (Or.inl (htodo.mem_iff.mpr (HashMap.mem_pairs.mpr hhas.1)))

omit [Primitives] in
/-- The monitor looks at a circuit that may have closed. -/
theorem Covers.looksClosed (h : s.Covers) {id : CircuitId} {k : Nat}
    {todo : List (CircuitId × Nat)} {ids : List CircuitId} {t : CircuitTask}
    (hlock : s.lock = some (.findingClosed ((id, k) :: todo) ids)) (htask : s.heap[k]? = some t) :
    ({ s with
      lock := some (.findingClosed todo
        (if t.circuit.state = .closed then ids ++ [id] else ids)) } : PoolState).Covers := by
  have hworn : s.wornLeft = some ([], []) := by rw [wornLeft, hlock]
  have hbefore : s.closedLeft = some (ids, (id, k) :: todo) := by rw [closedLeft, hlock]
  refine ⟨.of_holding (h.holding _ hlock rfl), ?_, ?_⟩
  · intro found left hleft other j hhas
    cases hleft
    exact h.worn _ _ hworn other j hhas
  · intro found left hleft other j hhas
    cases hleft
    rcases h.closed ids _ hbefore other j hhas with hfound | hmem | habandoned
    · refine Or.inl ?_
      split
      · exact List.mem_append_left _ hfound
      · exact hfound
    · rcases List.mem_cons.mp hmem with heq | hrest
      · cases heq
        obtain ⟨-, u, hu, hclosed⟩ := hhas
        cases htask.symm.trans hu
        have hstate : t.circuit.state = .closed := hclosed
        rw [if_pos hstate]
        exact Or.inl (List.mem_append_right _ (List.mem_singleton.mpr rfl))
      · exact Or.inr (Or.inl hrest)
    · exact Or.inr (Or.inr habandoned)

/-- The monitor passes over a slot that has been given up. -/
theorem Covers.checks (h : s.Covers) {id : CircuitId} {ids : List CircuitId}
    (hmonitor : s.monitor = .retrying (id :: ids)) (hlock : s.lock = none) :
    ({ s with
      monitor := if s.pool.isAbandoned id then .retrying ids else .backingOff id ids } :
        PoolState).Covers := by
  have hstep := Step.checks hmonitor hlock
  obtain ⟨hworn, hclosed⟩ := left_of_free hlock hmonitor
  by_cases habandoned : s.pool.isAbandoned id = true
  · rw [if_pos habandoned]
    refine ⟨.of_free hlock, ?_, ?_⟩
    · intro found left hleft other j hhas
      rw [wornLeft, hlock] at hleft
      cases hleft
      exact h.worn _ _ hworn other j hhas
    · intro found left hleft other j hhas
      rw [closedLeft, hlock] at hleft
      cases hleft
      rcases h.closed _ _ hclosed other j hhas with hmem | hrest
      · rcases List.mem_cons.mp hmem with rfl | hlater
        · exact Or.inr (Or.inr (of_decide_eq_true habandoned))
        · exact Or.inl hlater
      · exact Or.inr hrest
  · rw [if_neg habandoned] at hstep ⊢
    refine h.keeps (by trivial) hstep (.of_free hlock) (Or.inr ?_) (Or.inr ?_)
    · rw [hworn, wornLeft, hlock]
      rfl
    · rw [hclosed, closedLeft, hlock]
      rfl

/-- The monitor replaces a circuit. -/
theorem Covers.retries (h : s.Covers) {id : CircuitId} {secs : Nat} {ids : List CircuitId}
    (hmonitor : s.monitor = .waiting id secs ids) (hlock : s.lock = none) :
    ({ s with monitor := .retrying ids }.startReplace none id).Covers := by
  have hstep := Step.retries hmonitor hlock
  obtain ⟨hworn, hclosed⟩ := left_of_free hlock hmonitor
  refine ⟨.of_other rfl rfl, ?_, ?_⟩
  · intro found left hleft other j hhas
    cases hleft
    exact h.worn _ _ hworn other j (has_worn_before (by trivial) hstep hlock hhas)
  · intro found left hleft other j hhas
    cases hleft
    have hkept := (has_step (by trivial) hstep).1 hhas
    rcases h.closed _ _ hclosed other j hkept with hmem | hrest
    · rcases List.mem_cons.mp hmem with rfl | hlater
      · have hgone : (s.pool.circuits.erase other).lookup other = some j := hhas.1
        rw [HashMap.lookup_erase_eq, if_pos rfl] at hgone
        cases hgone
      · exact Or.inl hlater
    · exact Or.inr hrest

/-- The monitor misses nothing in a step that closes no circuit and ends no stream. -/
theorem Covers.step (h : s.Covers) (hquiet : s.Undisturbed e) (hstep : Step s e s') :
    s'.Covers := by
  have hfree : s.lock = none → s.lock.all (fun hold => !hold.isScan) = true := by
    intro hlock
    rw [hlock]
    rfl
  have hheld : ∀ {hold : PoolHold}, s.lock = some hold → hold.isScan = false →
      s.lock.all (fun hold => !hold.isScan) = true := by
    intro hold hlock hplain
    rw [hlock]
    simp [hplain]
  have hcopy := hstep
  cases hstep with
  | cleansUp ok hhandler => exact absurd hhandler (hquiet _ _)
  | breaks hhandler => exact absurd hhandler (hquiet _ _)
  | reads | registers | sends | inspects =>
      exact h.keeps hquiet hcopy h.holding (Or.inr rfl) (Or.inr rfl)
  | wakes now hmonitor hlock htodo =>
      exact h.keeps hquiet hcopy (.of_holding rfl) (Or.inl rfl) (Or.inl rfl)
  | expires hlock => exact h.expires hlock
  | expired hlock => exact h.keeps hquiet hcopy (.of_free rfl) (Or.inl rfl) (Or.inl rfl)
  | rebuilds hmonitor hlock =>
      exact h.keeps hquiet hcopy (.of_holding rfl) (Or.inl rfl) (Or.inl rfl)
  | findsDirty hmonitor hlock htodo =>
      refine ⟨.of_holding rfl, ?_, ?_⟩
      · intro found left hleft id k hhas
        cases hleft
        exact Or.inr (htodo.mem_iff.mpr (HashMap.mem_pairs.mpr hhas.1))
      · intro found left hleft
        cases hleft
  | looksDirty hlock htask => exact h.looksDirty hlock htask
  | counts hlock htask => exact h.counts hlock htask
  | @foundDirty ids hlock =>
      have hbefore : s.wornLeft = some (ids, []) := by rw [wornLeft, hlock]
      exact h.keeps hquiet hcopy (.of_free rfl) (Or.inr hbefore.symm) (Or.inl rfl)
  | cleans hmonitor hlock => exact h.cleans hmonitor hlock
  | findsClosed hmonitor hlock htodo => exact h.findsClosed hmonitor hlock htodo
  | looksClosed hlock htask => exact h.looksClosed hlock htask
  | @foundClosed ids hlock =>
      have hworn : s.wornLeft = some ([], []) := by rw [wornLeft, hlock]
      have hclosed : s.closedLeft = some (ids, []) := by rw [closedLeft, hlock]
      exact h.keeps hquiet hcopy (.of_free rfl) (Or.inr hworn.symm) (Or.inr hclosed.symm)
  | checks hmonitor hlock => exact h.checks hmonitor hlock
  | @backsOff id ids hmonitor hlock =>
      obtain ⟨hworn, hclosed⟩ := left_of_free hlock hmonitor
      refine h.keeps hquiet hcopy (.of_free hlock) (Or.inr ?_) (Or.inr ?_)
      · rw [hworn, wornLeft, hlock]
        rfl
      · rw [hclosed, closedLeft, hlock]
        rfl
  | retries hmonitor hlock => exact h.retries hmonitor hlock
  | rests hmonitor hlock =>
      refine h.keeps hquiet hcopy (.of_free hlock) (Or.inl ?_) (Or.inl ?_)
      · rw [wornLeft, hlock]
        rfl
      · rw [closedLeft, hlock]
        rfl
  | selects hhandler hlock htodo => exact h.others hquiet hcopy (hfree hlock) rfl rfl
  | looksReady hlock htask => exact h.others hquiet hcopy (hheld hlock rfl) rfl rfl
  | @picks handler id count hlock =>
      refine h.others hquiet hcopy (hheld hlock rfl) ?_ ?_
      · rw [(s.unlocks_pick handler id).lock]
        rfl
      · rcases s.pick_cases handler id with heq | ⟨k, -, heq⟩
        · rw [heq]
          rfl
        · rw [heq]
          rfl
  | finds hlock => exact h.others hquiet hcopy (hheld hlock rfl) rfl rfl
  | replaces hhandler hlock => exact h.others hquiet hcopy (hfree hlock) rfl rfl
  | @builds purpose id onionKeys now hlock =>
      cases purpose with
      | aged left => exact h.keeps hquiet hcopy (.of_free rfl) (Or.inl rfl) (Or.inl rfl)
      | replace caller failedId =>
          cases caller <;> exact h.others hquiet hcopy (hheld hlock rfl) rfl rfl
      | select handler => exact h.others hquiet hcopy (hheld hlock rfl) rfl rfl
  | @fails purpose id hlock =>
      cases purpose with
      | aged left => exact h.keeps hquiet hcopy (.of_free rfl) (Or.inl rfl) (Or.inl rfl)
      | replace caller failedId =>
          cases caller <;> exact h.others hquiet hcopy (hheld hlock rfl) rfl rfl
      | select handler => exact h.others hquiet hcopy (hheld hlock rfl) rfl rfl

/-! ## The end of a round -/

/-- The monitor wakes up, and until the end of its round no circuit closes and no stream ends,
whatever else the handlers do and whether builds succeed or fail. Then every dirty circuit that is
left in the pool has a stream, and every closed one is under an id whose budget is used up. -/
theorem round_settles {now : Nat} {s₁ : PoolState} (hwakes : Step s (.wakes now) s₁)
    {es : List PoolEvent} (hrun : (system.restrict Undisturbed).Run s₁ es s')
    (hend : s'.monitor = .retrying []) {id : CircuitId} {k : Nat} {t : CircuitTask}
    (hlookup : s'.pool.circuits.lookup id = some k) (htask : s'.heap[k]? = some t) :
    (t.circuit.state = .dirty → 0 < t.circuit.activeStreamCount) ∧
      (t.circuit.state = .closed → s'.pool.isAbandoned id = true) := by
  have hstart : s₁.Covers := by
    cases hwakes with
    | wakes now hmonitor hlock htodo =>
        refine ⟨.of_holding rfl, ?_, ?_⟩
        · intro found left hleft
          cases hleft
        · intro found left hleft
          cases hleft
  have hcovers : s'.Covers := by
    apply hrun.invariant Covers hstart
    intro s e s' h hstep
    exact h.step hstep.1 hstep.2
  have hplain : s'.lock.all (fun hold => !hold.isScan) = true := by
    cases hheld : s'.lock with
    | none => rfl
    | some hold =>
        cases hold with
        | findingDirty | counting | findingClosed =>
            cases hend.symm.trans (hcovers.holding _ hheld rfl)
        | _ => rfl
  obtain ⟨hworn, hclosed⟩ := left_eq hplain
  rw [hend] at hworn hclosed
  constructor
  · intro hdirty
    refine Nat.pos_of_ne_zero fun hidle => ?_
    have hfound := hcovers.worn _ _ hworn id k ⟨hlookup, t, htask, hdirty, hidle⟩
    simp at hfound
  · intro hstate
    have hfound := hcovers.closed _ _ hclosed id k ⟨hlookup, t, htask, hstate⟩
    simpa [CircuitPool.isAbandoned] using hfound

end

section

open Reference

/-- A circuit with a stream that has become too old. -/
def dirtyInUse : CircuitTask :=
  (CircuitTask.spawn (Circuit.built 1 (OnionKeys.new [] []))).openStream.expire

/-- A circuit that has closed. -/
def closedAtOnce : CircuitTask :=
  (CircuitTask.spawn (Circuit.built 2 (OnionKeys.new [] []))).endStream

/-- A pool that holds the two, and has given up the slot of the second. -/
def wornPool : PoolState :=
  let s := initialized (CircuitPool.new 2 3) [(OnionKeys.new [] [], 0), (OnionKeys.new [] [], 0)]
  let s := (s.setTask 0 dirtyInUse).setTask 1 closedAtOnce
  { s with pool := { s.pool with abandonedSlots := {2} } }

/-- At the end of a round the pool still holds a dirty circuit, which has a stream, and a closed
one, whose budget is used up. -/
theorem round_settles_wornPool :
    ∃ (s : PoolState) (t u : CircuitTask), s.monitor = .retrying [] ∧
      s.pool.circuits.lookup 1 = some 0 ∧ s.heap[0]? = some t ∧ t.circuit.state = .dirty ∧
      0 < t.circuit.activeStreamCount ∧
      s.pool.circuits.lookup 2 = some 1 ∧ s.heap[1]? = some u ∧ u.circuit.state = .closed ∧
      s.pool.isAbandoned 2 = true := by
  let woken : PoolState := { wornPool with lock := some (.expiring [] []), monitor := .holding }
  let aged : List CircuitId := []
  let expired : PoolState := { woken with lock := none, monitor := .rebuilding aged.length }
  let scan (todo : List (CircuitId × Nat)) : PoolState :=
    { expired with lock := some (.findingDirty todo []), monitor := .holding }
  let counting : PoolState := { expired with
    lock := some (.counting 1 0 [(2, 1)] [])
    monitor := .holding }
  let cleaned : PoolState := { scan [] with lock := none, monitor := .cleaning [] }
  let look (todo : List (CircuitId × Nat)) (ids : List CircuitId) : PoolState :=
    { cleaned with lock := some (.findingClosed todo ids), monitor := .holding }
  let found : PoolState := { look [] [2] with lock := none, monitor := .retrying [2] }
  let settled : PoolState := { found with monitor := .retrying [] }
  have hwakes : Step wornPool (.wakes 0) woken := .wakes 0 rfl rfl (.refl _)
  have hexpired : Step woken (.works none) expired := .expired rfl
  have hseeks : Step expired (.works none) (scan [(1, 0), (2, 1)]) :=
    .findsDirty rfl rfl (.swap _ _ _)
  have hdirty : Step (scan [(1, 0), (2, 1)]) (.works none) counting :=
    .looksDirty (t := dirtyInUse) rfl rfl
  have hcounts : Step counting (.works none) (scan [(2, 1)]) := .counts (t := dirtyInUse) rfl rfl
  have hskips : Step (scan [(2, 1)]) (.works none) (scan []) :=
    .looksDirty (t := closedAtOnce) rfl rfl
  have hsought : Step (scan []) (.works none) cleaned := .foundDirty rfl
  have hscans : Step cleaned (.works none) (look [(1, 0), (2, 1)] []) :=
    .findsClosed rfl rfl (.swap _ _ _)
  have hopen : Step (look [(1, 0), (2, 1)] []) (.works none) (look [(2, 1)] []) :=
    .looksClosed (t := dirtyInUse) rfl rfl
  have hclosed : Step (look [(2, 1)] []) (.works none) (look [] [2]) :=
    Step.looksClosed (s := look [(2, 1)] []) (t := closedAtOnce) rfl rfl
  have hfound : Step (look [] [2]) (.works none) found := .foundClosed rfl
  have hchecks : Step found (.works none) settled := Step.checks (s := found) rfl rfl
  have hworks : ∀ {s s' : PoolState}, Step s (.works none) s' →
      (system.restrict Undisturbed).step s (.works none) s' := fun hstep => ⟨trivial, hstep⟩
  have hcleaned := (((((TransitionSystem.Run.nil woken).snoc (hworks hexpired)).snoc
    (hworks hseeks)).snoc (hworks hdirty)).snoc (hworks hcounts)).snoc (hworks hskips)
  have hlooked := (((hcleaned.snoc (hworks hsought)).snoc (hworks hscans)).snoc
    (hworks hopen)).snoc (hworks hclosed)
  have hrun := (hlooked.snoc (hworks hfound)).snoc (hworks hchecks)
  have hfirst : settled.pool.circuits.lookup 1 = some 0 := rfl
  have hsecond : settled.pool.circuits.lookup 2 = some 1 := rfl
  have hinUse := (round_settles hwakes hrun rfl hfirst (t := dirtyInUse) rfl).1 rfl
  have habandoned := (round_settles hwakes hrun rfl hsecond (t := closedAtOnce) rfl).2 rfl
  exact ⟨settled, dirtyInUse, closedAtOnce, rfl, hfirst, rfl, rfl, hinUse, hsecond, rfl, rfl,
    habandoned⟩

end

end PoolState

end NoPanic
