/-
# Streams of the circuits in a pool

A handler takes the pool's lock to select a circuit and the circuit's lock to open its
stream, and nothing holds between the two. When the reader closes the circuit in
between, or the monitor expires it, the stream is opened on a circuit that takes none.
As long as no circuit that a handler has selected stops being ready before the handler
has opened its stream, streams are opened only on ready circuits of the pool, a dirty
circuit leaves the pool only without streams, and a reader leaves none behind.
-/

import NoPanic.Client.PoolBudget

namespace NoPanic

open NoPanic.Math

/-! ## What a step does to a circuit -/

/-- A circuit that has closed. -/
def Circuit.Closed (c : Circuit) : Prop := c.state = .closed

/-- A circuit without streams. -/
def Circuit.Idle (c : Circuit) : Prop := c.activeStreamCount = 0

/-- A circuit that the monitor may drop: it has closed, or it is dirty and without
streams. -/
def Circuit.Drained (c : Circuit) : Prop := c.Closed ∨ c.state = .dirty ∧ c.Idle

/-- The state of a circuit fits its reader. -/
structure CircuitTask.Tidy (t : CircuitTask) : Prop where
  reading : t.reader = .reading → t.circuit.state = .ready ∨ t.circuit.state = .dirty
  left : t.reader ≠ .reading → t.circuit.state = .closed
  stopped : t.reader = .stopped → t.circuit.Idle

/-- What a step may do to a circuit: it keeps its id, it does not become ready, what has
closed or drained stays so, and its state still fits its reader. -/
structure CircuitTask.Advances (t t' : CircuitTask) : Prop where
  circuitId : t'.circuit.circuitId = t.circuit.circuitId
  ready : t'.circuit.state = .ready → t.circuit.state = .ready
  closed : t.circuit.Closed → t'.circuit.Closed
  drained : t.circuit.Drained → t'.circuit.Drained
  tidy : t.Tidy → t'.Tidy

/-- A circuit is without streams when its map is empty. -/
theorem Circuit.idle_iff {c : Circuit} : c.Idle ↔ c.streamSenders = ∅ := by
  rw [Idle, activeStreamCount, List.length_eq_zero_iff]
  constructor
  · intro hkeys
    apply AList.ext
    exact List.map_eq_nil_iff.mp hkeys
  · intro hsenders
    rw [hsenders]
    rfl

/-- A circuit that is dirty or closed is not ready. -/
theorem Circuit.Drained.not_ready {c : Circuit} (h : c.Drained) : c.state ≠ .ready := by
  intro hready
  rcases h with hclosed | ⟨hdirty, -⟩
  · rw [Circuit.Closed, hready] at hclosed
    cases hclosed
  · rw [hready] at hdirty
    cases hdirty

/-- The same circuit with fewer streams. -/
theorem CircuitTask.Advances.of_idle {t t' : CircuitTask}
    (hid : t'.circuit.circuitId = t.circuit.circuitId)
    (hstate : t'.circuit.state = t.circuit.state) (hreader : t'.reader = t.reader)
    (hidle : t.circuit.Idle → t'.circuit.Idle) : t.Advances t' := by
  refine ⟨hid, fun hready => hstate ▸ hready, fun hclosed => hstate.trans hclosed, ?_, ?_⟩
  · rintro (hclosed | ⟨hdirty, hnone⟩)
    · exact Or.inl (hstate.trans hclosed)
    · exact Or.inr ⟨hstate.trans hdirty, hidle hnone⟩
  · intro htidy
    refine ⟨?_, ?_, ?_⟩
    · rw [hreader, hstate]
      exact htidy.reading
    · rw [hreader, hstate]
      exact htidy.left
    · rw [hreader]
      exact fun hstopped => hidle (htidy.stopped hstopped)

theorem CircuitTask.Advances.refl (t : CircuitTask) : t.Advances t :=
  .of_idle rfl rfl rfl fun hidle => hidle

/-- A circuit that closes while its reader leaves. -/
theorem CircuitTask.Advances.of_closed {t t' : CircuitTask}
    (hid : t'.circuit.circuitId = t.circuit.circuitId) (hclosed : t'.circuit.state = .closed)
    (hreader : t'.reader ≠ .reading) (hstopped : t'.reader = .stopped → t'.circuit.Idle) :
    t.Advances t' := by
  refine ⟨hid, ?_, fun _ => hclosed, fun _ => Or.inl hclosed, fun _ => ?_⟩
  · intro hready
    rw [hclosed] at hready
    cases hready
  · exact ⟨fun hreading => absurd hreading hreader, fun _ => hclosed, hstopped⟩

/-- The monitor expires a circuit. -/
theorem CircuitTask.advances_expire {t : CircuitTask} (hready : t.circuit.state = .ready) :
    t.Advances t.expire := by
  have hexpire : t.expire = { t with circuit := { t.circuit with state := .dirty } } :=
    if_pos hready
  rw [hexpire]
  refine ⟨rfl, fun _ => hready, ?_, ?_, ?_⟩
  · intro hclosed
    rw [Circuit.Closed, hready] at hclosed
    cases hclosed
  · intro hdrained
    exact absurd hready hdrained.not_ready
  · intro htidy
    refine ⟨fun _ => Or.inr rfl, ?_, htidy.stopped⟩
    intro hleft
    have hclosed := htidy.left hleft
    rw [hready] at hclosed
    cases hclosed

/-- A stream opens on a ready circuit. -/
theorem CircuitTask.advances_openStream {t : CircuitTask} (hready : t.circuit.state = .ready) :
    t.Advances t.openStream := by
  refine ⟨rfl, fun hready => hready, fun hclosed => hclosed, ?_, ?_⟩
  · intro hdrained
    exact absurd hready hdrained.not_ready
  · intro htidy
    refine ⟨htidy.reading, htidy.left, ?_⟩
    intro hstopped
    have hreader : t.reader ≠ .reading := by
      rw [show t.reader = .stopped from hstopped]
      decide
    have hclosed := htidy.left hreader
    rw [hready] at hclosed
    cases hclosed

/-- A step of the reader registers no stream and expires no circuit. -/
theorem CircuitEvent.ofReader.other {e : CircuitEvent} (h : e.ofReader) :
    (∀ streamId, e ≠ .registers streamId) ∧ e ≠ .expires := by
  cases e with
  | receives | ends | finishes => simp
  | _ => cases h

section

variable [Primitives]

/-- The reader does not change the id of its circuit. -/
theorem CircuitTask.receive_circuitId (t : CircuitTask) (msg : Message) :
    (t.receive msg).circuit.circuitId = t.circuit.circuitId := by
  by_cases hdestroy : msg.command = .destroy
  · simp [receive, hdestroy, Circuit.close]
  · simp only [receive, if_neg hdestroy, OnionKeys.onionDecrypt, applyBackwardAll_snd]
    cases (t.circuit.onionKeys.backwardDigest.verify msg.streamId msg.command.toU8
      (maskAll (t.circuit.onionKeys.ciphers.map CipherPair.backward) msg.data) msg.digest).2 with
    | false => simp
    | true =>
        simp only [Bool.not_true, Bool.false_eq_true, if_false]
        cases t.circuit.streamSenders.lookup msg.streamId <;> rfl

/-- A step of a task around a circuit, unless it registers a stream. -/
theorem CircuitTask.Step.advances {t t' : CircuitTask} {e : CircuitEvent} (hstep : t.Step e t')
    (hregisters : ∀ streamId, e ≠ .registers streamId) : t.Advances t' := by
  cases hstep with
  | registers streamId => exact absurd rfl (hregisters streamId)
  | allocates => exact .of_idle rfl rfl rfl fun hidle => hidle
  | unregisters streamId =>
      refine .of_idle rfl rfl rfl fun hidle => ?_
      rw [Circuit.idle_iff] at hidle ⊢
      rw [Circuit.unregisterStream, hidle]
      rfl
  | sends streamId command data entryWriter =>
      obtain ⟨hsenders, hstate, -⟩ := sendMessage_frame t.circuit streamId command data entryWriter
      refine .of_idle ?_ hstate rfl fun hidle => ?_
      · simp only [Circuit.sendMessage, OnionKeys.onionEncrypt]
        split <;> rfl
      · rw [Circuit.idle_iff] at hidle ⊢
        exact hsenders.trans hidle
  | expires =>
      by_cases hready : t.circuit.state = .ready
      · exact advances_expire hready
      · rw [expire, if_neg hready]
        exact .of_idle rfl rfl rfl fun hidle => hidle
  | receives msg hreading =>
      have hid := t.receive_circuitId msg
      cases haccept : t.circuit.onionKeys.backwardEnd.accept? msg with
      | none =>
          obtain ⟨hclosed, hstopping, -⟩ := receive_of_not_accept haccept
          refine .of_closed hid hclosed ?_ ?_
          · rw [hstopping]
            decide
          · rw [hstopping]
            intro hstopped
            cases hstopped
      | some out =>
          obtain ⟨-, hstate, hreader, -, hsenders⟩ := receive_of_accept haccept
          refine .of_idle hid hstate hreader fun hidle => ?_
          rw [Circuit.idle_iff] at hidle ⊢
          rw [hsenders, hidle]
          rfl
  | ends hreading => exact .of_closed rfl rfl (by simp [endStream]) (by simp [endStream])
  | finishes hstopping =>
      exact .of_closed rfl rfl (by simp [finish]) fun _ => Circuit.idle_iff.mpr rfl

/-- What takes a ready circuit out of service: the reader meets the end of its stream or a
cell that it does not accept. -/
def CircuitTask.Leaves (t : CircuitTask) : CircuitEvent → Prop
  | .receives msg => t.circuit.onionKeys.backwardEnd.accept? msg = none
  | .ends | .finishes => True
  | _ => False

/-- Any other step of a reader leaves the circuit ready. -/
theorem CircuitTask.Step.stays {t t' : CircuitTask} {e : CircuitEvent} (hstep : t.Step e t')
    (hstays : ¬ t.Leaves e) (hexpires : e ≠ .expires) : t'.circuit.state = t.circuit.state := by
  cases hstep with
  | allocates | registers | unregisters => rfl
  | sends streamId command data entryWriter =>
      exact (sendMessage_frame t.circuit streamId command data entryWriter).2.1
  | expires => exact absurd rfl hexpires
  | receives msg hreading =>
      cases haccept : t.circuit.onionKeys.backwardEnd.accept? msg with
      | none => exact absurd haccept hstays
      | some out => exact (receive_of_accept haccept).2.1
  | ends | finishes => exact absurd trivial hstays

end

namespace PoolState

/-! ## What the tasks know -/

/-- A circuit is ready, and the pool holds it. -/
def ReadyInPool (s : PoolState) (k : Nat) : Prop :=
  ∃ id t, s.pool.circuits.lookup id = some k ∧ s.heap[k]? = some t ∧ t.circuit.state = .ready

/-- An id has been given to a circuit, and whatever the pool holds under it has a
property. -/
def Under (s : PoolState) (property : Circuit → Prop) (id : CircuitId) : Prop :=
  (∃ t ∈ s.heap, t.circuit.circuitId = id) ∧
    ∀ k t, s.pool.circuits.lookup id = some k → s.heap[k]? = some t → property t.circuit

/-- The pool holds no other circuit under the id of a circuit. -/
def Kept (s : PoolState) (k : Nat) : Prop :=
  ∃ t, s.heap[k]? = some t ∧ ∀ j, s.pool.circuits.lookup t.circuit.circuitId = some j → j = k

/-- What is left of a scan is still in the pool. -/
def Agrees (s : PoolState) (todo : List (CircuitId × Nat)) : Prop :=
  ∀ id k, (id, k) ∈ todo → s.pool.circuits.lookup id = some k

/-- What the holder of the lock knows. -/
def HoldOk (s : PoolState) : PoolHold → Prop
  | .findingDirty todo ids => s.Agrees todo ∧ ∀ id ∈ ids, s.Under Circuit.Drained id
  | .counting id k todo ids =>
      s.pool.circuits.lookup id = some k ∧ (∀ t, s.heap[k]? = some t → t.circuit.state ≠ .ready) ∧
        s.Agrees todo ∧ ∀ id ∈ ids, s.Under Circuit.Drained id
  | .findingClosed todo ids => s.Agrees todo ∧ ∀ id ∈ ids, s.Under Circuit.Closed id
  | _ => True

/-- What the monitor knows. -/
def MonitorOk (s : PoolState) : MonitorPhase → Prop
  | .cleaning ids => ∀ id ∈ ids, s.Under Circuit.Drained id
  | .retrying ids => ∀ id ∈ ids, s.Under Circuit.Closed id
  | .backingOff id rest | .waiting id _ rest => ∀ other ∈ id :: rest, s.Under Circuit.Closed other
  | _ => True

/-- What a handler knows. -/
def HandlerOk (s : PoolState) : HandlerPhase → Prop
  | .picked k => s.ReadyInPool k
  | .streaming k _ | .failed k => s.Kept k
  | .replacing id => s.Under Circuit.Closed id
  | _ => True

/-- The circuits of the pool are on the heap under their ids, and fit their readers. -/
structure Grounded (s : PoolState) : Prop where
  onHeap : ∀ id k, s.pool.circuits.lookup id = some k →
    ∃ t, s.heap[k]? = some t ∧ t.circuit.circuitId = id
  tidy : ∀ t ∈ s.heap, t.Tidy

/-- The invariant: whatever a task has seen of a circuit without holding a lock is still
good enough for what it does next. -/
structure Safe (s : PoolState) : Prop where
  grounded : s.Grounded
  hold : ∀ hold, s.lock = some hold → s.HoldOk hold
  monitor : s.MonitorOk s.monitor
  handlers : ∀ h, s.HandlerOk (s.handlers h)

/-- What a step may do to the circuits: they advance, and the pool takes in circuits under
new ids only. -/
structure Evolves (s s' : PoolState) : Prop where
  heap : ∀ (k : Nat) (t : CircuitTask), s.heap[k]? = some t →
    ∃ t', s'.heap[k]? = some t' ∧ t.Advances t'
  lookup : ∀ id k, s'.pool.circuits.lookup id = some k →
    s.pool.circuits.lookup id = some k ∨ ∀ t ∈ s.heap, t.circuit.circuitId ≠ id

section

variable {s s' : PoolState} {id : CircuitId} {k : Nat}

/-- What is known of an id stays true. -/
theorem Under.evolves {property : Circuit → Prop} (h : s.Under property id)
    (hgrounded : s.Grounded) (hev : s.Evolves s')
    (hkeep : ∀ {t t' : CircuitTask}, t.Advances t' → property t.circuit → property t'.circuit) :
    s'.Under property id := by
  obtain ⟨⟨t, hmem, hid⟩, hunder⟩ := h
  refine ⟨?_, ?_⟩
  · obtain ⟨j, hj, hat⟩ := List.getElem_of_mem hmem
    obtain ⟨t', htask, hadv⟩ := hev.heap j t (by rw [List.getElem?_eq_getElem hj, hat])
    exact ⟨t', List.mem_of_getElem? htask, hadv.circuitId.trans hid⟩
  · intro k u hlookup htask
    rcases hev.lookup id k hlookup with hbefore | hnew
    · obtain ⟨v, hv, -⟩ := hgrounded.onHeap id k hbefore
      obtain ⟨v', hv', hadv⟩ := hev.heap k v hv
      rw [hv'] at htask
      cases htask
      exact hkeep hadv (hunder k v hbefore hv)
    · exact absurd hid (hnew t hmem)

/-- A circuit that a handler keeps. -/
theorem Kept.evolves (h : s.Kept k) (hev : s.Evolves s') : s'.Kept k := by
  obtain ⟨t, htask, honly⟩ := h
  obtain ⟨t', htask', hadv⟩ := hev.heap k t htask
  refine ⟨t', htask', ?_⟩
  intro j hlookup
  rw [hadv.circuitId] at hlookup
  rcases hev.lookup _ j hlookup with hbefore | hnew
  · exact honly j hbefore
  · exact absurd rfl (hnew t (List.mem_of_getElem? htask))

/-- A ready circuit of the pool is the only one under its id. -/
theorem ReadyInPool.kept (h : s.ReadyInPool k) (hgrounded : s.Grounded) : s.Kept k := by
  obtain ⟨id, t, hlookup, htask, -⟩ := h
  obtain ⟨u, hu, hid⟩ := hgrounded.onHeap id k hlookup
  rw [htask] at hu
  cases hu
  refine ⟨t, htask, ?_⟩
  intro j hj
  rw [hid, hlookup] at hj
  exact (Option.some.inj hj).symm

/-- What the monitor knows stays true. -/
theorem MonitorOk.evolves {phase : MonitorPhase} (h : s.MonitorOk phase)
    (hgrounded : s.Grounded) (hev : s.Evolves s') : s'.MonitorOk phase := by
  cases phase with
  | cleaning ids =>
      intro other hmem
      exact (h other hmem).evolves hgrounded hev fun hadv => hadv.drained
  | retrying ids | backingOff _ rest | waiting _ _ rest =>
      intro other hmem
      exact (h other hmem).evolves hgrounded hev fun hadv => hadv.closed
  | _ => trivial

/-- What a handler knows stays true, unless it has selected a circuit. -/
theorem HandlerOk.evolves {phase : HandlerPhase} (h : s.HandlerOk phase)
    (hgrounded : s.Grounded) (hev : s.Evolves s')
    (hpicked : ∀ k, phase = .picked k → s'.ReadyInPool k) : s'.HandlerOk phase := by
  cases phase with
  | picked k => exact hpicked k rfl
  | streaming k streamId => exact Kept.evolves h hev
  | failed k => exact Kept.evolves h hev
  | replacing id => exact Under.evolves h hgrounded hev fun hadv => hadv.closed
  | _ => trivial

/-- What the holder of the lock knows stays true while the pool keeps its circuits. -/
theorem HoldOk.evolves {hold : PoolHold} (h : s.HoldOk hold) (hgrounded : s.Grounded)
    (hev : s.Evolves s') (hcircuits : s'.pool.circuits = s.pool.circuits) : s'.HoldOk hold := by
  have hagrees : ∀ {todo}, s.Agrees todo → s'.Agrees todo := by
    intro todo htodo id k hmem
    rw [hcircuits]
    exact htodo id k hmem
  have hdrained : ∀ {ids : List CircuitId}, (∀ id ∈ ids, s.Under Circuit.Drained id) →
      ∀ id ∈ ids, s'.Under Circuit.Drained id :=
    fun hids id hmem => (hids id hmem).evolves hgrounded hev fun hadv => hadv.drained
  cases hold with
  | findingDirty todo ids => exact ⟨hagrees h.1, hdrained h.2⟩
  | counting id k todo ids =>
      obtain ⟨hlookup, hleft, htodo, hids⟩ := h
      refine ⟨by rw [hcircuits]; exact hlookup, ?_, hagrees htodo, hdrained hids⟩
      intro t' htask' hready
      obtain ⟨t, htask, -⟩ := hgrounded.onHeap id k hlookup
      obtain ⟨u, hu, hadv⟩ := hev.heap k t htask
      rw [htask'] at hu
      cases hu
      exact hleft t htask (hadv.ready hready)
  | findingClosed todo ids =>
      exact ⟨hagrees h.1,
        fun id hmem => (h.2 id hmem).evolves hgrounded hev fun hadv => hadv.closed⟩
  | _ => trivial

/-- What is seen of a circuit of the pool. -/
theorem Grounded.under {property : Circuit → Prop} {t : CircuitTask} (h : s.Grounded)
    (hlookup : s.pool.circuits.lookup id = some k) (htask : s.heap[k]? = some t)
    (hproperty : property t.circuit) : s.Under property id := by
  obtain ⟨u, hu, hid⟩ := h.onHeap id k hlookup
  refine ⟨⟨u, List.mem_of_getElem? hu, hid⟩, ?_⟩
  intro j v hj hv
  rw [hlookup] at hj
  cases hj
  rw [htask] at hv
  cases hv
  exact hproperty

/-- What is seen of a circuit that a handler keeps. -/
theorem Kept.under {property : Circuit → Prop} {t : CircuitTask} (h : s.Kept k)
    (htask : s.heap[k]? = some t) (hproperty : property t.circuit) :
    s.Under property t.circuit.circuitId := by
  obtain ⟨u, hu, honly⟩ := h
  rw [htask] at hu
  cases hu
  refine ⟨⟨t, List.mem_of_getElem? htask, rfl⟩, ?_⟩
  intro j v hj hv
  rw [honly j hj, htask] at hv
  cases hv
  exact hproperty

/-- One more id in a list. -/
theorem forall_under_append {property : Circuit → Prop} {ids : List CircuitId}
    (hids : ∀ other ∈ ids, s.Under property other) (hid : s.Under property id) :
    ∀ other ∈ ids ++ [id], s.Under property other := by
  intro other hmem
  rcases List.mem_append.mp hmem with hmem | hmem
  · exact hids other hmem
  · rw [List.mem_singleton.mp hmem]
    exact hid

/-- Changing the phase of one handler. -/
theorem forall_setHandler {u : PoolState} {h : Nat} {phase : HandlerPhase}
    (hothers : ∀ other, s.HandlerOk (u.handlers other)) (hphase : s.HandlerOk phase) :
    ∀ other, s.HandlerOk ((u.setHandler h phase).handlers other) := by
  intro other
  show s.HandlerOk (Function.update u.handlers h phase other)
  rw [Function.update_apply]
  split
  · exact hphase
  · exact hothers other

/-! ## What a step does to the circuits -/

/-- The circuits stay as they are. -/
theorem Grounded.same (h : s.Grounded) (hcircuits : s'.pool.circuits = s.pool.circuits)
    (hheap : s'.heap = s.heap) : s'.Grounded ∧ s.Evolves s' := by
  refine ⟨⟨?_, ?_⟩, ⟨?_, ?_⟩⟩
  · rw [hcircuits, hheap]
    exact h.onHeap
  · rw [hheap]
    exact h.tidy
  · intro k t htask
    exact ⟨t, by rw [hheap, htask], .refl t⟩
  · intro id k hlookup
    rw [hcircuits] at hlookup
    exact Or.inl hlookup

/-- Another state with the same circuits. -/
theorem Evolves.congr {u : PoolState} (h : u.Grounded ∧ s.Evolves u)
    (hcircuits : s'.pool.circuits = u.pool.circuits) (hheap : s'.heap = u.heap) :
    s'.Grounded ∧ s.Evolves s' := by
  obtain ⟨hgrounded, hev⟩ := h
  refine ⟨(hgrounded.same hcircuits hheap).1, ⟨?_, ?_⟩⟩
  · rw [hheap]
    exact hev.heap
  · rw [hcircuits]
    exact hev.lookup

/-- One circuit advances. -/
theorem Grounded.setTask (h : s.Grounded) {t t' : CircuitTask} (htask : s.heap[k]? = some t)
    (hadv : t.Advances t') : (s.setTask k t').Grounded ∧ s.Evolves (s.setTask k t') := by
  have hat : ∀ (j : Nat) (u : CircuitTask), s.heap[j]? = some u →
      ∃ u', (s.heap.set k t')[j]? = some u' ∧ u.Advances u' := by
    intro j u hu
    rw [List.getElem?_set]
    split
    · next heq =>
      subst heq
      rw [htask] at hu
      cases hu
      exact ⟨t', if_pos (List.getElem?_eq_some_iff.mp htask).1, hadv⟩
    · exact ⟨u, hu, .refl u⟩
  refine ⟨⟨?_, ?_⟩, ⟨hat, fun id j hlookup => Or.inl hlookup⟩⟩
  · intro id j hlookup
    obtain ⟨u, hu, hid⟩ := h.onHeap id j hlookup
    obtain ⟨u', hu', hadv'⟩ := hat j u hu
    exact ⟨u', hu', hadv'.circuitId.trans hid⟩
  · intro u hmem
    rcases List.mem_or_eq_of_mem_set hmem with hmem | rfl
    · exact h.tidy u hmem
    · exact hadv.tidy (h.tidy t (List.mem_of_getElem? htask))

/-- A circuit leaves the pool. -/
theorem Grounded.erase (h : s.Grounded) (hcircuits : s'.pool.circuits = s.pool.circuits.erase id)
    (hheap : s'.heap = s.heap) : s'.Grounded ∧ s.Evolves s' := by
  have hkept : ∀ {other k}, s'.pool.circuits.lookup other = some k →
      s.pool.circuits.lookup other = some k := by
    intro other k hlookup
    rw [hcircuits, HashMap.lookup_erase_eq] at hlookup
    split at hlookup
    · cases hlookup
    · exact hlookup
  refine ⟨⟨?_, ?_⟩, ⟨?_, fun other k hlookup => Or.inl (hkept hlookup)⟩⟩
  · intro other k hlookup
    rw [hheap]
    exact h.onHeap other k (hkept hlookup)
  · rw [hheap]
    exact h.tidy
  · intro k t htask
    exact ⟨t, by rw [hheap, htask], .refl t⟩

/-- A circuit joins the pool. -/
theorem Grounded.addCircuit (h : s.Grounded) (id : CircuitId) (onionKeys : OnionKeys) (now : Nat) :
    (s.addCircuit id onionKeys now).Grounded := by
  refine ⟨?_, ?_⟩
  · intro other j hlookup
    rw [PoolState.addCircuit, CircuitPool.insertCircuit, HashMap.lookup_insert_eq] at hlookup
    split at hlookup
    · next heq =>
      cases hlookup
      exact ⟨_, List.getElem?_concat_length, heq.symm⟩
    · obtain ⟨t, htask, hid⟩ := h.onHeap other j hlookup
      have hlt := (List.getElem?_eq_some_iff.mp htask).1
      exact ⟨t, by rw [PoolState.addCircuit, List.getElem?_append_left hlt, htask], hid⟩
  · intro t hmem
    rw [PoolState.addCircuit] at hmem
    rcases List.mem_append.mp hmem with hmem | hmem
    · exact h.tidy t hmem
    · rw [List.mem_singleton.mp hmem]
      exact ⟨fun _ => Or.inl rfl, fun hleft => absurd rfl hleft, fun hstopped => by cases hstopped⟩

/-- It does so under a new id. -/
theorem evolves_addCircuit (onionKeys : OnionKeys) (now : Nat)
    (hnew : ∀ t ∈ s.heap, t.circuit.circuitId ≠ id) :
    s.Evolves (s.addCircuit id onionKeys now) := by
  refine ⟨?_, ?_⟩
  · intro j t htask
    have hlt := (List.getElem?_eq_some_iff.mp htask).1
    exact ⟨t, by rw [PoolState.addCircuit, List.getElem?_append_left hlt, htask], .refl t⟩
  · intro other j hlookup
    rw [PoolState.addCircuit, CircuitPool.insertCircuit, HashMap.lookup_insert_eq] at hlookup
    split at hlookup
    · next heq =>
      subst heq
      exact Or.inr hnew
    · exact Or.inl hlookup

/-! ## What a step does to a circuit that a handler has selected -/

/-- One circuit advances, and the one that is ready stays so. -/
theorem ReadyInPool.setTask (h : s.ReadyInPool k) {j : Nat} {t t' : CircuitTask}
    (htask : s.heap[j]? = some t)
    (hready : j = k → t.circuit.state = .ready → t'.circuit.state = .ready) :
    (s.setTask j t').ReadyInPool k := by
  obtain ⟨id, u, hlookup, hu, hstate⟩ := h
  by_cases heq : j = k
  · subst heq
    rw [htask] at hu
    cases hu
    have hlt : j < s.heap.length := (List.getElem?_eq_some_iff.mp htask).1
    exact ⟨id, t', hlookup, by rw [PoolState.setTask, List.getElem?_set_self hlt],
      hready rfl hstate⟩
  · exact ⟨id, u, hlookup, by rw [PoolState.setTask, List.getElem?_set_ne heq, hu], hstate⟩

/-- A circuit that is not ready leaves the pool. -/
theorem ReadyInPool.erase {other : CircuitId} {property : Circuit → Prop} (h : s.ReadyInPool k)
    (hunder : s.Under property other)
    (hproperty : ∀ c : Circuit, property c → c.state ≠ .ready)
    (hcircuits : s'.pool.circuits = s.pool.circuits.erase other) (hheap : s'.heap = s.heap) :
    s'.ReadyInPool k := by
  obtain ⟨id, t, hlookup, htask, hready⟩ := h
  have hne : id ≠ other := by
    rintro rfl
    exact hproperty _ (hunder.2 k t hlookup htask) hready
  refine ⟨id, t, ?_, ?_, hready⟩
  · rw [hcircuits, HashMap.lookup_erase_eq, if_neg hne, hlookup]
  · rw [hheap, htask]

/-- Whoever gives the lock back leaves the circuit where it is. -/
theorem ReadyInPool.unlocks (h : s.ReadyInPool k) (hunlocks : Unlocks s s') :
    s'.ReadyInPool k := by
  obtain ⟨id, t, hlookup, htask, hready⟩ := h
  exact ⟨id, t, hunlocks.circuits ▸ hlookup, hunlocks.heap ▸ htask, hready⟩

/-- A circuit joins the pool under a new id. -/
theorem ReadyInPool.addCircuit {onionKeys : OnionKeys} {now : Nat} (h : s.ReadyInPool k)
    (hgrounded : s.Grounded) (hnew : ∀ t ∈ s.heap, t.circuit.circuitId ≠ id) :
    (s.addCircuit id onionKeys now).ReadyInPool k := by
  obtain ⟨other, t, hlookup, htask, hready⟩ := h
  obtain ⟨u, hu, hid⟩ := hgrounded.onHeap other k hlookup
  have hne : other ≠ id := fun heq => hnew u (List.mem_of_getElem? hu) (hid.trans heq)
  refine ⟨other, t, ?_, ?_, hready⟩
  · rw [PoolState.addCircuit, CircuitPool.insertCircuit, HashMap.lookup_insert_eq, if_neg hne,
      hlookup]
  · rw [PoolState.addCircuit, List.getElem?_append_left (List.getElem?_eq_some_iff.mp htask).1,
      htask]

/-- The circuit that has just joined the pool. -/
theorem readyInPool_addCircuit (s : PoolState) (id : CircuitId) (onionKeys : OnionKeys)
    (now : Nat) : (s.addCircuit id onionKeys now).ReadyInPool s.heap.length := by
  refine ⟨id, _, ?_, List.getElem?_concat_length, rfl⟩
  rw [PoolState.addCircuit, CircuitPool.insertCircuit, HashMap.lookup_insert_eq, if_pos rfl]

variable [Primitives]

/-- The steps between which nothing goes wrong: no reader leaves and no circuit expires that
a handler has selected and has not opened its stream on, a selection ends with a circuit
that is still ready, and no circuit takes an id that another has. -/
def StaysReady (s : PoolState) : PoolEvent → Prop
  | .reads k e => ∀ t, s.heap[k]? = some t → t.Leaves e → ∀ h, s.handlers h ≠ .picked k
  | .works none => ∀ id todo agedOut k, s.lock = some (.expiring (id :: todo) agedOut) →
      s.pool.circuits.lookup id = some k → ∀ h, s.handlers h ≠ .picked k
  | .works (some h) => ∀ id count k t, s.lock = some (.selecting h [] (some (id, count))) →
      s.pool.circuits.lookup id = some k → s.heap[k]? = some t → t.circuit.state = .ready
  | .builds purpose _ _ => ∀ id, s.lock = some (.building purpose id) →
      ∀ t ∈ s.heap, t.circuit.circuitId ≠ id
  | _ => True

/-- The circuits after a step. -/
theorem Safe.evolves {e : PoolEvent} (h : s.Safe) (hstays : s.StaysReady e)
    (hstep : Step s e s') : s'.Grounded ∧ s.Evolves s' := by
  cases hstep with
  | reads htask hreader hstep =>
      exact h.grounded.setTask htask (hstep.advances (CircuitEvent.ofReader.other hreader).1)
  | expires hlock =>
      rcases expireNext_cases hlock with ⟨todo, heq⟩ | ⟨k, t, -, htask, hready, heq⟩
      · rw [heq]
        exact h.grounded.same rfl rfl
      · rw [heq]
        exact Evolves.congr
          (h.grounded.setTask htask (CircuitTask.advances_expire hready)) rfl rfl
  | cleans | retries | replaces => exact h.grounded.erase rfl rfl
  | @picks handler id count hlock =>
      have hunlocks := s.unlocks_pick handler id
      exact h.grounded.same hunlocks.circuits hunlocks.heap
  | @registers handler k t hhandler htask =>
      have hpicked : s.HandlerOk (.picked k) := hhandler ▸ h.handlers handler
      obtain ⟨id, u, -, hu, hready⟩ := hpicked
      rw [htask] at hu
      cases hu
      exact Evolves.congr
        (h.grounded.setTask htask (CircuitTask.advances_openStream hready)) rfl rfl
  | sends hhandler htask hstep =>
      exact h.grounded.setTask htask (hstep.advances (by simp))
  | cleansUp ok hhandler htask hstep =>
      exact Evolves.congr (h.grounded.setTask htask (hstep.advances (by simp))) rfl rfl
  | @builds purpose id onionKeys now hlock =>
      have hadded := And.intro (h.grounded.addCircuit id onionKeys now)
        (evolves_addCircuit onionKeys now (hstays id hlock))
      have hunlocks := s.unlocks_finishBuild purpose id onionKeys now
      exact Evolves.congr hadded hunlocks.circuits hunlocks.heap
  | @fails purpose id hlock =>
      have hunlocks := s.unlocks_failBuild purpose
      exact h.grounded.same hunlocks.circuits hunlocks.heap
  | _ => exact h.grounded.same rfl rfl

/-- A circuit that a handler has selected is ready after any step. -/
theorem Safe.readyInPool_step {e : PoolEvent} (h : s.Safe) (hstays : s.StaysReady e)
    (hstep : Step s e s') {handler : Nat} (hpicked : s.handlers handler = .picked k) :
    s'.ReadyInPool k := by
  have hready : s.ReadyInPool k := by
    have hhandler := h.handlers handler
    rwa [hpicked] at hhandler
  have hstate : ∀ {j : Nat} {t t' : CircuitTask}, s.heap[j]? = some t →
      t'.circuit.state = t.circuit.state → (s.setTask j t').ReadyInPool k :=
    fun htask hsame => hready.setTask htask fun _ hbefore => hsame.trans hbefore
  cases hstep with
  | @reads j e t t' htask hreader hstep =>
      apply hready.setTask htask
      rintro rfl hbefore
      have hleaves : ¬ t.Leaves e := fun hleaves => hstays t htask hleaves handler hpicked
      rw [hstep.stays hleaves (CircuitEvent.ofReader.other hreader).2, hbefore]
  | @expires id todo agedOut hlock =>
      rcases expireNext_cases hlock with ⟨todo', heq⟩ | ⟨j, t, hlookup, htask, -, heq⟩
      · rw [heq]
        exact hready
      · rw [heq]
        apply hready.setTask htask
        rintro rfl
        exact absurd hpicked (hstays id todo agedOut j hlock hlookup handler)
  | @cleans other ids hmonitor hlock =>
      have hunder : s.Under Circuit.Drained other := by
        have hmonitor' := h.monitor
        rw [hmonitor] at hmonitor'
        exact hmonitor' other (List.mem_cons_self ..)
      exact hready.erase hunder (fun c hdrained => hdrained.not_ready) rfl rfl
  | @retries other secs ids hmonitor hlock =>
      have hunder : s.Under Circuit.Closed other := by
        have hmonitor' := h.monitor
        rw [hmonitor] at hmonitor'
        exact hmonitor' other (List.mem_cons_self ..)
      exact hready.erase hunder
        (fun c hclosed => Circuit.Drained.not_ready (Or.inl hclosed)) rfl rfl
  | @replaces caller other hhandler hlock =>
      have hunder : s.HandlerOk (.replacing other) := hhandler ▸ h.handlers caller
      exact ReadyInPool.erase hready hunder
        (fun c hclosed => Circuit.Drained.not_ready (Or.inl hclosed)) rfl rfl
  | picks hlock => exact hready.unlocks (s.unlocks_pick _ _)
  | registers hhandler htask => exact hstate htask rfl
  | sends hhandler htask hstep =>
      exact hstate htask (hstep.stays (fun hleaves => hleaves) (by simp))
  | cleansUp ok hhandler htask hstep =>
      exact hstate htask (hstep.stays (fun hleaves => hleaves) (by simp))
  | @builds purpose id onionKeys now hlock =>
      have hadded : (s.addCircuit id onionKeys now).ReadyInPool k :=
        hready.addCircuit h.grounded (hstays id hlock)
      exact hadded.unlocks (s.unlocks_finishBuild purpose id onionKeys now)
  | @fails purpose id hlock => exact hready.unlocks (s.unlocks_failBuild purpose)
  | _ => exact hready

/-- What the holder of the lock knows after a step. -/
theorem Safe.hold_step {e : PoolEvent} (h : s.Safe) (hstays : s.StaysReady e)
    (hstep : Step s e s') : ∀ hold, s'.lock = some hold → s'.HoldOk hold := by
  have hev := (h.evolves hstays hstep).2
  intro hold hlock'
  have hsame : s'.lock = s.lock → s'.pool.circuits = s.pool.circuits → s'.HoldOk hold :=
    fun hlock hcircuits => (h.hold hold (hlock ▸ hlock')).evolves h.grounded hev hcircuits
  cases hstep with
  | reads | registers | sends | cleansUp | breaks | inspects => exact hsame rfl rfl
  | cleans _ hlock
  | checks _ hlock
  | backsOff _ hlock
  | rests _ hlock =>
      rw [show s.lock = some hold from hlock'] at hlock
      cases hlock
  | expires hlock =>
      rcases expireNext_cases hlock with ⟨todo, heq⟩ | ⟨k, t, -, -, -, heq⟩
      · rw [heq] at hlock'
        cases hlock'
        trivial
      · rw [heq] at hlock'
        cases hlock'
        trivial
  | findsDirty hmonitor hlock htodo =>
      cases hlock'
      refine ⟨?_, by simp⟩
      intro id k hmem
      exact HashMap.mem_pairs.mp (htodo.mem_iff.mp hmem)
  | @looksDirty id k todo ids t hlock htask =>
      obtain ⟨hagrees, hids⟩ : s.HoldOk (.findingDirty ((id, k) :: todo) ids) := h.hold _ hlock
      have htodo : s.Agrees todo := fun id k hmem => hagrees id k (List.mem_cons_of_mem _ hmem)
      cases hlock'
      split
      · next hdirty =>
        refine ⟨hagrees id k (List.mem_cons_self ..), ?_, htodo, hids⟩
        intro u hu hready
        rw [show s.heap[k]? = some u from hu] at htask
        cases htask
        rw [hdirty] at hready
        cases hready
      · exact ⟨htodo, hids⟩
  | @counts id k todo ids t hlock htask =>
      obtain ⟨hlookup, hleft, htodo, hids⟩ : s.HoldOk (.counting id k todo ids) :=
        h.hold _ hlock
      cases hlock'
      refine ⟨htodo, ?_⟩
      split
      · next hidle =>
        -- the circuit was dirty before, and may have closed since
        have hdrained : t.circuit.Drained := by
          have htidy := h.grounded.tidy t (List.mem_of_getElem? htask)
          by_cases hreading : t.reader = .reading
          · exact Or.inr ⟨(htidy.reading hreading).resolve_left (hleft t htask), hidle⟩
          · exact Or.inl (htidy.left hreading)
        exact forall_under_append hids (h.grounded.under hlookup htask hdrained)
      · exact hids
  | findsClosed hmonitor hlock htodo =>
      cases hlock'
      refine ⟨?_, by simp⟩
      intro id k hmem
      exact HashMap.mem_pairs.mp (htodo.mem_iff.mp hmem)
  | @looksClosed id k todo ids t hlock htask =>
      obtain ⟨hagrees, hids⟩ : s.HoldOk (.findingClosed ((id, k) :: todo) ids) := h.hold _ hlock
      cases hlock'
      refine ⟨fun id k hmem => hagrees id k (List.mem_cons_of_mem _ hmem), ?_⟩
      split
      · next hclosed =>
        have hlookup := hagrees id k (List.mem_cons_self ..)
        exact forall_under_append hids (h.grounded.under hlookup htask hclosed)
      · exact hids
  | @picks handler id count hlock =>
      rw [(s.unlocks_pick handler id).lock] at hlock'
      cases hlock'
  | @builds purpose id onionKeys now hlock =>
      rw [(s.unlocks_finishBuild purpose id onionKeys now).lock] at hlock'
      cases hlock'
  | @fails purpose id hlock =>
      rw [(s.unlocks_failBuild purpose).lock] at hlock'
      cases hlock'
  | expired | foundDirty | foundClosed => cases hlock'
  | _ =>
      cases hlock'
      trivial

/-- What the monitor knows after a step. -/
theorem Safe.monitor_step {e : PoolEvent} (h : s.Safe) (hstays : s.StaysReady e)
    (hstep : Step s e s') : s'.MonitorOk s'.monitor := by
  have hev := (h.evolves hstays hstep).2
  have hsame : s'.MonitorOk s.monitor := h.monitor.evolves h.grounded hev
  cases hstep with
  | wakes | expired | rebuilds | findsDirty | findsClosed | rests => trivial
  | expires hlock =>
      rcases expireNext_cases hlock with ⟨todo, heq⟩ | ⟨k, t, -, -, -, heq⟩
      · rw [heq] at hsame ⊢
        exact hsame
      · rw [heq] at hsame ⊢
        exact hsame
  | foundDirty hlock => exact (show s.HoldOk (.findingDirty [] _) from h.hold _ hlock).2
  | foundClosed hlock => exact (show s.HoldOk (.findingClosed [] _) from h.hold _ hlock).2
  | cleans hmonitor hlock
  | retries hmonitor hlock =>
      rw [hmonitor] at hsame
      exact fun other hmem => hsame other (List.mem_cons_of_mem _ hmem)
  | checks hmonitor hlock =>
      rw [hmonitor] at hsame
      show MonitorOk _ (if _ then _ else _)
      split
      · exact fun other hmem => hsame other (List.mem_cons_of_mem _ hmem)
      · exact hsame
  | backsOff hmonitor hlock =>
      rw [hmonitor] at hsame
      exact hsame
  | @picks handler id count hlock =>
      rcases s.pick_cases handler id with heq | ⟨k, -, heq⟩
      · rw [heq] at hsame ⊢
        exact hsame
      · rw [heq] at hsame ⊢
        exact hsame
  | @builds purpose id onionKeys now hlock =>
      cases purpose with
      | aged => trivial
      | select => exact hsame
      | replace caller failedId => cases caller <;> exact hsame
  | @fails purpose id hlock =>
      cases purpose with
      | aged => trivial
      | select => exact hsame
      | replace caller failedId => cases caller <;> exact hsame
  | _ => exact hsame

/-- What the handlers know after a step. -/
theorem Safe.handlers_step {e : PoolEvent} (h : s.Safe) (hstays : s.StaysReady e)
    (hstep : Step s e s') : ∀ handler, s'.HandlerOk (s'.handlers handler) := by
  have hev := (h.evolves hstays hstep).2
  have hothers : ∀ other, s'.HandlerOk (s.handlers other) := fun other =>
    (h.handlers other).evolves h.grounded hev fun k hpicked =>
      h.readyInPool_step hstays hstep hpicked
  have hkept : ∀ {k}, s.Kept k → s'.Kept k := fun hkept => hkept.evolves hev
  cases hstep with
  | selects => exact forall_setHandler hothers trivial
  | @picks handler id count hlock =>
      rcases s.pick_cases handler id with heq | ⟨k, hlookup, heq⟩
      · rw [heq] at hothers ⊢
        exact forall_setHandler hothers trivial
      · rw [heq] at hothers ⊢
        obtain ⟨t, htask, -⟩ := h.grounded.onHeap id k hlookup
        have hready := hstays id count k t hlock hlookup htask
        exact forall_setHandler hothers ⟨id, t, hlookup, htask, hready⟩
  | @registers handler k t hhandler htask =>
      have hpicked : s.HandlerOk (.picked k) := hhandler ▸ h.handlers handler
      exact forall_setHandler hothers (hkept (ReadyInPool.kept hpicked h.grounded))
  | @cleansUp handler k streamId t t' ok hhandler htask hstep =>
      have hstreaming : s.HandlerOk (.streaming k streamId) := hhandler ▸ h.handlers handler
      cases ok with
      | false => exact forall_setHandler hothers (hkept hstreaming)
      | true => exact forall_setHandler hothers trivial
  | @breaks handler k streamId hhandler =>
      have hstreaming : s.HandlerOk (.streaming k streamId) := hhandler ▸ h.handlers handler
      exact forall_setHandler hothers (hkept hstreaming)
  | @inspects handler k t hhandler htask =>
      have hfailed : s.HandlerOk (.failed k) := hhandler ▸ h.handlers handler
      split
      · next hclosed =>
        exact forall_setHandler hothers (Kept.under hfailed htask hclosed)
      · exact forall_setHandler hothers trivial
  | @replaces handler id hhandler hlock => exact forall_setHandler (u := s) hothers trivial
  | expires hlock =>
      rcases expireNext_cases hlock with ⟨todo, heq⟩ | ⟨k, t, -, -, -, heq⟩
      · rw [heq] at hothers ⊢
        exact hothers
      · rw [heq] at hothers ⊢
        exact hothers
  | @builds purpose id onionKeys now hlock =>
      cases purpose with
      | aged => exact hothers
      | select handler =>
          have hadded := readyInPool_addCircuit s id onionKeys now
          exact forall_setHandler (u := s) hothers hadded
      | replace caller failedId =>
          cases caller with
          | none => exact hothers
          | some handler => exact forall_setHandler (u := s) hothers trivial
  | @fails purpose id hlock =>
      cases purpose with
      | aged => exact hothers
      | select handler => exact forall_setHandler (u := s) hothers trivial
      | replace caller failedId =>
          cases caller with
          | none => exact hothers
          | some handler => exact forall_setHandler (u := s) hothers trivial
  | _ => exact hothers

/-- Every step keeps the invariant. -/
theorem Safe.step {e : PoolEvent} (h : s.Safe) (hstays : s.StaysReady e)
    (hstep : Step s e s') : s'.Safe :=
  ⟨(h.evolves hstays hstep).1, h.hold_step hstays hstep, h.monitor_step hstays hstep,
    h.handlers_step hstays hstep⟩

/-- A dirty circuit leaves the pool only without streams. -/
theorem Safe.idle_of_removed {e : PoolEvent} {t : CircuitTask} (h : s.Safe)
    (hstays : s.StaysReady e) (hstep : Step s e s') (hlookup : s.pool.circuits.lookup id = some k)
    (htask : s.heap[k]? = some t) (hdirty : t.circuit.state = .dirty)
    (hgone : s'.pool.circuits.lookup id ≠ some k) : t.circuit.Idle := by
  have hclosed : s.Under Circuit.Closed id → t.circuit.Idle := by
    intro hunder
    have hstate := hunder.2 k t hlookup htask
    rw [Circuit.Closed, hdirty] at hstate
    cases hstate
  -- only the circuit that is removed leaves the pool
  have hremoved : ∀ other, s'.pool.circuits = s.pool.circuits.erase other → id = other := by
    intro other hcircuits
    by_contra hne
    apply hgone
    rw [hcircuits, HashMap.lookup_erase_eq, if_neg hne, hlookup]
  have hmonitor := h.monitor
  cases hstep with
  | @cleans other ids hphase hlock =>
      obtain rfl := hremoved other rfl
      rw [hphase] at hmonitor
      rcases (hmonitor id (List.mem_cons_self ..)).2 k t hlookup htask with hstate | ⟨-, hidle⟩
      · rw [Circuit.Closed, hdirty] at hstate
        cases hstate
      · exact hidle
  | @retries other secs ids hphase hlock =>
      obtain rfl := hremoved other rfl
      rw [hphase] at hmonitor
      exact hclosed (hmonitor id (List.mem_cons_self ..))
  | @replaces handler other hphase hlock =>
      obtain rfl := hremoved other rfl
      have hreplacing : s.HandlerOk (.replacing id) := hphase ▸ h.handlers handler
      exact hclosed hreplacing
  | @builds purpose other onionKeys now hlock =>
      obtain ⟨u, hu, hid⟩ := h.grounded.onHeap id k hlookup
      have hne : id ≠ other := fun heq =>
        hstays other hlock u (List.mem_of_getElem? hu) (hid.trans heq)
      have hkept : (s.addCircuit other onionKeys now).pool.circuits.lookup id = some k := by
        rw [addCircuit, CircuitPool.insertCircuit, HashMap.lookup_insert_eq, if_neg hne, hlookup]
      rw [(s.unlocks_finishBuild purpose other onionKeys now).circuits] at hgone
      exact absurd hkept hgone
  | @fails purpose other hlock =>
      rw [(s.unlocks_failBuild purpose).circuits] at hgone
      exact absurd hlookup hgone
  | expires hlock =>
      rcases expireNext_cases hlock with ⟨todo, heq⟩ | ⟨j, u, -, -, -, heq⟩
      · rw [heq] at hgone
        exact absurd hlookup hgone
      · rw [heq] at hgone
        exact absurd hlookup hgone
  | @picks handler other count hlock =>
      rw [(s.unlocks_pick handler other).circuits] at hgone
      exact absurd hlookup hgone
  | _ => exact absurd hlookup hgone

end

/-- The pool after `initialize`. -/
theorem safe_of_started {s : PoolState} (hstart : s.Started) : s.Safe := by
  obtain ⟨pool, built, hcircuits, -, -, -, -, rfl⟩ := hstart
  have hinit : (initialized pool built).Grounded ∧ (initialized pool built).lock = none ∧
      (initialized pool built).monitor = .sleeping ∧
      (initialized pool built).handlers = fun _ => .arriving := by
    induction built using List.reverseRecOn with
    | nil =>
        refine ⟨⟨?_, fun t hmem => by cases hmem⟩, rfl, rfl, rfl⟩
        intro id k hlookup
        rw [show (initialized pool []).pool.circuits = ∅ from hcircuits] at hlookup
        cases hlookup
    | append_singleton built last ih =>
        obtain ⟨hgrounded, hphases⟩ := ih
        let before := initialized pool built
        have hlast : initialized pool (built ++ [last]) =
            ({ before with pool := before.pool.allocateCircuitId.1 }).addCircuit
              before.pool.allocateCircuitId.2 last.1 last.2 := by
          rw [initialized, List.foldl_append]
          rfl
        let allocated : PoolState := { before with pool := before.pool.allocateCircuitId.1 }
        have hallocated : allocated.Grounded ∧ before.Evolves allocated := hgrounded.same rfl rfl
        rw [hlast]
        exact ⟨hallocated.1.addCircuit _ _ _, hphases⟩
  obtain ⟨hgrounded, hlock, hmonitor, hhandlers⟩ := hinit
  refine ⟨hgrounded, ?_, ?_, ?_⟩
  · intro hold hheld
    rw [hlock] at hheld
    cases hheld
  · rw [hmonitor]
    trivial
  · rw [hhandlers]
    exact fun _ => trivial

section

variable [Primitives]

/-- In every run after `initialize` in which the circuits that handlers have selected stay
ready, a handler that has selected a circuit, and may open its stream at any moment, finds
it ready and in the pool; a dirty circuit leaves the pool only without streams; and a
reader that has ended leaves no stream on its circuit. -/
theorem opened_on_ready {s₀ s : PoolState} {es : List PoolEvent} (hstart : s₀.Started)
    (hrun : (system.restrict StaysReady).Run s₀ es s) :
    (∀ h k, s.handlers h = .picked k → s.ReadyInPool k) ∧
      (∀ e s', (system.restrict StaysReady).step s e s' → ∀ id k t,
        s.pool.circuits.lookup id = some k → s.heap[k]? = some t → t.circuit.state = .dirty →
        s'.pool.circuits.lookup id ≠ some k → t.circuit.Idle) ∧
      ∀ t ∈ s.heap, t.reader = .stopped → t.circuit.Idle := by
  have hsafe : s.Safe := by
    apply hrun.invariant Safe (safe_of_started hstart)
    rintro s e s' hs ⟨hstays, hstep⟩
    exact hs.step hstays hstep
  refine ⟨?_, ?_, ?_⟩
  · intro h k hpicked
    have hhandler := hsafe.handlers h
    rwa [hpicked] at hhandler
  · intro e s' hstep id k t hlookup htask hdirty hgone
    exact hsafe.idle_of_removed hstep.1 hstep.2 hlookup htask hdirty hgone
  · intro t hmem hstopped
    exact (hsafe.grounded.tidy t hmem).stopped hstopped

end

section

open Reference

/-- A handler has selected a circuit, its reader ends, and then the handler opens its
stream: the circuit has closed, and its stream stays. -/
theorem not_opened_on_ready_closed :
    ¬ ∀ (s₀ : PoolState) (es : List PoolEvent) (s : PoolState), s₀.Started →
      system.Run s₀ es s →
      (∀ h k, s.handlers h = .picked k → s.ReadyInPool k) ∧
        (∀ e s', system.step s e s' → ∀ id k t,
          s.pool.circuits.lookup id = some k → s.heap[k]? = some t → t.circuit.state = .dirty →
          s'.pool.circuits.lookup id ≠ some k → t.circuit.Idle) ∧
        ∀ t ∈ s.heap, t.reader = .stopped → t.circuit.Idle := by
  intro hclaim
  let built : CircuitTask := CircuitTask.spawn (Circuit.built 1 (OnionKeys.new [] []))
  let picked := onePool.setHandler 0 (.picked 0)
  let closed := picked.setTask 0 built.endStream
  let finished := closed.setTask 0 built.endStream.finish
  let opened := (finished.setTask 0 built.endStream.finish.openStream).setHandler 0
    (.streaming 0 1)
  have hpairs : onePool.pool.circuits.pairs = [(1, 0)] := rfl
  have hpicks := run_picks (s := onePool) (h := 0) (t := built) rfl rfl hpairs rfl rfl
  have hends : Step picked (.reads 0 .ends) closed := .reads (t := built) rfl trivial (.ends rfl)
  have hfinishes : Step closed (.reads 0 .finishes) finished :=
    .reads (t := built.endStream) rfl trivial (.finishes rfl)
  have hregisters : Step finished (.works (some 0)) opened :=
    .registers (t := built.endStream.finish) rfl rfl
  have hrun := ((hpicks.of_restrict.snoc hends).snoc hfinishes).snoc hregisters
  have hidle := (hclaim onePool _ opened onePool_started hrun).2.2
    built.endStream.finish.openStream (List.mem_singleton_self _) rfl
  exact absurd hidle Nat.one_ne_zero

/-- A handler selects the one circuit of a pool, and finds it ready. -/
theorem opened_on_ready_picked :
    ∃ es s, (system.restrict StaysReady).Run onePool es s ∧ s.handlers 0 = .picked 0 ∧
      s.ReadyInPool 0 := by
  let built : CircuitTask := CircuitTask.spawn (Circuit.built 1 (OnionKeys.new [] []))
  let selecting : PoolState :=
    { onePool.setHandler 0 .holding with lock := some (.selecting 0 [(1, 0)] none) }
  let selected : PoolState :=
    { selecting with lock := some (.selecting 0 [] (consider none 1 built)) }
  have hselects : Step onePool (.works (some 0)) selecting := .selects rfl rfl (.refl _)
  have hlooks : Step selecting (.works (some 0)) selected := .looksReady rfl rfl
  have hpicks : Step selected (.works (some 0)) (selected.pick 0 1) := .picks rfl
  have hkeep : ∀ {s s'}, Step s (.works (some 0)) s' → s.StaysReady (.works (some 0)) →
      (system.restrict StaysReady).step s (.works (some 0)) s' :=
    fun hstep hstays => ⟨hstays, hstep⟩
  have hnil : (system.restrict StaysReady).Run onePool [] onePool := .nil _
  have hselecting := hnil.snoc (hkeep hselects (by intro id count k t hlock; cases hlock))
  have hselected := hselecting.snoc (hkeep hlooks (by intro id count k t hlock; cases hlock))
  have hpicked := hselected.snoc (hkeep hpicks (by
    intro id count k t hlock hlookup htask
    cases hlock
    cases hlookup
    cases htask
    rfl))
  exact ⟨_, _, hpicked, rfl, (opened_on_ready onePool_started hpicked).1 0 0 rfl⟩

end

end PoolState

end NoPanic
