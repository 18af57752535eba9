/-
# Circuits of different connections

The registry of a relay is one map for all its connections, and a cell finds its
circuit by the id it carries. Ids are chosen by the clients, so nothing keeps two
connections from using the same one: the second CREATE replaces the first circuit,
and the first client's cells then reach the second client's circuit.

As long as no cell names an id under which the registry holds the circuit of another
connection, connections do not meet. Each step changes its own connection only, and
the connections of any group of clients are in the state they would be in if the
others were absent.
-/

import NoPanic.Common.Reference
import NoPanic.Relay.Ownership

namespace NoPanic

open NoPanic.Math

namespace RelayNode

/-! ## One step -/

/-- Nothing has changed but what belongs to connection `n`, and the counters. -/
structure Confined (n : Nat) (before after : RelayNode) : Prop where
  nodeType : after.nodeType = before.nodeType
  keypair : after.keypair = before.keypair
  connections : ∀ m, m ≠ n → after.connections m = before.connections m
  registry : ∀ id ref, ref.conn ≠ n →
    (after.registry.lookup id = some ref ↔ before.registry.lookup id = some ref)
  lock : ∀ m, m ≠ n → (after.lock = some m ↔ before.lock = some m)

/-- What belongs to connection `n` is the same at two relays. -/
structure Same (n : Nat) (s t : RelayNode) : Prop where
  nodeType : t.nodeType = s.nodeType
  keypair : t.keypair = s.keypair
  connection : t.connections n = s.connections n
  registry : ∀ id ref, ref.conn = n →
    (t.registry.lookup id = some ref ↔ s.registry.lookup id = some ref)
  lock : t.lock = some n ↔ s.lock = some n

/-- What the phase of a loop says about the relay. -/
def PhaseOk (node : RelayNode) (n : Nat) : Prop :=
  match (node.connections n).phase with
  | .reading | .ended => True
  | .greeting handler _ | .registering handler => handler.nextHop = none
  | .replying _ circuitId _ =>
      node.lock = some n ∧ ∀ ref, node.registry.lookup circuitId = some ref → ref.conn = n

/-- The invariant of a relay whose connections do not meet. -/
structure Apart (node : RelayNode) : Prop where
  owned : node.CircuitsOwned
  phases : ∀ n, node.PhaseOk n

/-- A relay next to another that holds at least what belongs to connection `n` there,
and nothing else than the other. -/
structure Beside (n : Nat) (s t : RelayNode) : Prop where
  apart : s.Apart
  same : Same n s t
  registry : ∀ id ref, t.registry.lookup id = some ref → s.registry.lookup id = some ref
  lock : ∀ m, t.lock = some m → s.lock = some m

/-- A step that two relays take side by side. -/
structure Abreast (n : Nat) (s t s' t' : RelayNode) : Prop where
  left : Confined n s s'
  right : Confined n t t'
  apart : s'.Apart
  same : Same n s' t'

section

variable {n : Nat} {s t s' t' : RelayNode}

/-- A free lock is free on both sides. -/
theorem Beside.lock_none (h : Beside n s t) (hlock : s.lock = none) : t.lock = none := by
  cases ht : t.lock with
  | none => rfl
  | some m => simp [h.lock m ht] at hlock

/-- An id that finds a circuit of this connection only is found alike. -/
theorem Beside.lookup (h : Beside n s t) {id : CircuitId}
    (hown : ∀ ref, s.registry.lookup id = some ref → ref.conn = n) :
    t.registry.lookup id = s.registry.lookup id := by
  cases hs : s.registry.lookup id with
  | some ref => exact (h.same.registry id ref (hown ref hs)).mpr hs
  | none =>
      cases ht : t.registry.lookup id with
      | none => rfl
      | some ref => simp [h.registry id ref ht] at hs

/-- A change that leaves the registry and its lock alone is a step side by side, if the
loop of the connection ends in a phase that is in order. -/
theorem Pair.abreast (h : Beside n s t) (hpair : Pair n s t s' t') (hphase : s'.PhaseOk n) :
    Abreast n s t s' t' := by
  have hconfined : ∀ {a b : RelayNode}, Updates n a b → Confined n a b := by
    intro a b hupdates
    exact ⟨hupdates.nodeType, hupdates.keypair, hupdates.connections,
      fun id ref _ => by rw [hupdates.registry], fun m _ => by rw [hupdates.lock]⟩
  refine ⟨hconfined hpair.left, hconfined hpair.right, ⟨hpair.owned, ?_⟩, ?_⟩
  · intro m
    by_cases hm : m = n
    · subst hm
      exact hphase
    · have hold := h.apart.phases m
      unfold PhaseOk at hold ⊢
      rwa [hpair.left.connections m hm, hpair.left.lock, hpair.left.registry]
  · refine ⟨?_, ?_, hpair.same, ?_, ?_⟩
    · rw [hpair.left.nodeType, hpair.right.nodeType, h.same.nodeType]
    · rw [hpair.left.keypair, hpair.right.keypair, h.same.keypair]
    · rw [hpair.left.registry, hpair.right.registry]
      exact h.same.registry
    · rw [hpair.left.lock, hpair.right.lock]
      exact h.same.lock

/-- A phase in which the loop holds nothing is in order. -/
theorem phaseOk_of_idle {node : RelayNode}
    (hphase : (node.connections n).phase = .reading ∨ (node.connections n).phase = .ended) :
    node.PhaseOk n := by
  unfold PhaseOk
  rcases hphase with h | h <;> rw [h] <;> trivial

/-- A change that keeps the phase of the loop keeps it in order. -/
theorem PhaseOk.of_eq (h : s.PhaseOk n) (hupdates : Updates n s s')
    (hphase : (s'.connections n).phase = (s.connections n).phase) : s'.PhaseOk n := by
  unfold PhaseOk at h ⊢
  rwa [hphase, hupdates.lock, hupdates.registry]

/-- The connections of two relays side by side. -/
theorem Beside.owned (h : Beside n s t) : s.CircuitsOwned := h.apart.owned

/-- A reader or a task changes its circuit and no loop's phase. -/
theorem Beside.modifyCircuit (h : Beside n s t) {ref : CircuitRef} (href : ref.conn = n)
    {f : HeldCircuit → HeldCircuit}
    (hf : ∀ c, s.circuit? ref = some c → c.OwnedBy ref → (f c).OwnedBy ref) :
    Abreast n s t (s.modifyCircuit ref f) (t.modifyCircuit ref f) := by
  have hpair := pair_modifyCircuit h.owned h.same.connection href hf
  exact hpair.abreast h ((h.apart.phases n).of_eq hpair.left (phase_modifyCircuit s ref f n))

/-- The loop ends, or reads on. -/
theorem Beside.setPhase (h : Beside n s t) {phase : ConnectionPhase}
    (hphase : phase = .reading ∨ phase = .ended) :
    Abreast n s t (s.setPhase n phase) (t.setPhase n phase) := by
  have hpair := pair_setPhase phase h.owned h.same.connection
  refine hpair.abreast h (phaseOk_of_idle ?_)
  rcases hphase with rfl | rfl <;> simp

/-- Nothing happens. -/
theorem Beside.refl (h : Beside n s t) : Abreast n s t s t :=
  Pair.abreast h ⟨.refl n s, .refl n t, h.owned, h.same.connection⟩ (h.apart.phases n)

/-- The loop takes the lock, or releases it, together with a change of its connection. -/
theorem Pair.abreast_lock (h : Beside n s t) (hpair : Pair n s t s' t') {lock : Option Nat}
    (hbefore : s.lock = none ∨ s.lock = some n) (hafter : lock = none ∨ lock = some n)
    (hphase : ({ s' with lock } : RelayNode).PhaseOk n) :
    Abreast n s t { s' with lock } { t' with lock } := by
  have hfree : ∀ m, m ≠ n → s.lock ≠ some m := by
    intro m hm heq
    rcases hbefore with hnone | hsome
    · simp [hnone] at heq
    · exact hm (Option.some.inj (heq.symm.trans hsome))
  have hfree' : ∀ m, m ≠ n → lock ≠ some m := by
    intro m hm heq
    rcases hafter with hnone | hsome
    · simp [hnone] at heq
    · exact hm (Option.some.inj (heq.symm.trans hsome))
  refine ⟨⟨hpair.left.nodeType, hpair.left.keypair, hpair.left.connections,
      fun id ref _ => by rw [← hpair.left.registry], ?_⟩,
    ⟨hpair.right.nodeType, hpair.right.keypair, hpair.right.connections,
      fun id ref _ => by rw [← hpair.right.registry], ?_⟩, ⟨hpair.owned, ?_⟩,
    ⟨?_, ?_, hpair.same, ?_, Iff.rfl⟩⟩
  · exact fun m hm => iff_of_false (hfree' m hm) (hfree m hm)
  · exact fun m hm => iff_of_false (hfree' m hm) fun heq => hfree m hm (h.lock m heq)
  · intro m
    by_cases hm : m = n
    · subst hm
      exact hphase
    · have hold := h.apart.phases m
      unfold PhaseOk at hold ⊢
      simp only [hpair.left.connections m hm]
      cases hphase : (s.connections m).phase with
      | replying command circuitId response =>
          rw [hphase] at hold
          exact absurd hold.1 (hfree m hm)
      | reading | ended => trivial
      | greeting handler response => simpa [hphase] using hold
      | registering handler => simpa [hphase] using hold
  · rw [hpair.left.nodeType, hpair.right.nodeType, h.same.nodeType]
  · rw [hpair.left.keypair, hpair.right.keypair, h.same.keypair]
  · rw [hpair.left.registry, hpair.right.registry]
    exact h.same.registry

/-- The loop handles a cell whose id finds a circuit of its own connection. -/
theorem Beside.handle (h : Beside n s t) {ref : CircuitRef} {msg : Message}
    {out : Handled CircuitHandler (Option Message)} (href : ref.conn = n)
    (hlock : s.lock = none) (hwithin : StaysWithin CircuitHandler.nextHop n ref out)
    (hown : ∀ ref, s.registry.lookup msg.circuitId = some ref → ref.conn = n) :
    Abreast n s t (s.handle n ref msg out) (t.handle n ref msg out) := by
  have hhandler := pair_modifyCircuit (t := t) (f := fun c => c.setHandler out.handler) h.owned
    h.same.connection href fun c _ hc => hc.setHandler hwithin.nextHop
  have hdone := hhandler.trans (pair_effects href hwithin.effects hhandler.owned hhandler.same)
  unfold RelayNode.handle
  match hresult : out.result with
  | .error e =>
      refine (hdone.trans (pair_setPhase _ hdone.owned hdone.same)).abreast h ?_
      exact phaseOk_of_idle (Or.inr (phase_setPhase _ _ _))
  | .ok none =>
      refine (hdone.trans (pair_conclude _ _ hdone.owned hdone.same ?_ ?_)).abreast h ?_
      · rw [hdone.left.registry, hdone.right.registry]
        exact h.lookup hown
      · rw [hdone.left.registry]
        exact hown
      · exact phaseOk_of_idle (Or.inl (phase_conclude _ _ _ _))
  | .ok (some response) =>
      have hwait := hdone.trans (pair_setPhase (.replying msg.command msg.circuitId response)
        hdone.owned hdone.same)
      apply hwait.abreast_lock h (Or.inl hlock) (Or.inr rfl)
      simp only [PhaseOk, phase_setPhase]
      refine ⟨trivial, ?_⟩
      rw [hwait.left.registry]
      exact hown

/-- The loop writes its answer and releases the lock. -/
theorem Beside.reply (h : Beside n s t) {command : MessageCommand} {circuitId : CircuitId}
    {response : Message} (stream : Except String Unit)
    (hphase : (s.connections n).phase = .replying command circuitId response) :
    Abreast n s t (s.reply n command circuitId response stream)
      (t.reply n command circuitId response stream) := by
  have hok := h.apart.phases n
  rw [PhaseOk, hphase] at hok
  unfold RelayNode.reply
  split
  · have hend := pair_setPhase (t := t) .ended h.owned h.same.connection
    refine hend.abreast_lock h (Or.inr hok.1) (Or.inl rfl) (phaseOk_of_idle (Or.inr ?_))
    exact phase_setPhase s n .ended
  · have hout := pair_output (t := t) (.cell response) h.owned h.same.connection
    have hcount : Pair n s t
        ((s.output n (.cell response)).countReply command response.data.length)
        ((t.output n (.cell response)).countReply command response.data.length) := by
      cases command with
      | extend | extended | destroy => exact hout
      | _ =>
          exact hout.trans
            (pair_count (fun m => m.addForwarded response.data.length) hout.owned hout.same)
    have hdone := hcount.trans (pair_conclude command circuitId hcount.owned hcount.same
      (by rw [hcount.left.registry, hcount.right.registry, h.lookup hok.2])
      (by rw [hcount.left.registry]; exact hok.2))
    refine hdone.abreast_lock h (Or.inr hok.1) (Or.inl rfl) (phaseOk_of_idle (Or.inl ?_))
    exact phase_conclude _ n command circuitId

/-- The loop writes CREATED. -/
theorem Beside.greet (h : Beside n s t) {handler : CircuitHandler} {response : Message}
    (stream : Except String Unit)
    (hphase : (s.connections n).phase = .greeting handler response) :
    Abreast n s t (s.greet n handler response stream) (t.greet n handler response stream) := by
  have hok := h.apart.phases n
  rw [PhaseOk, hphase] at hok
  unfold RelayNode.greet
  split
  · exact h.setPhase (Or.inr rfl)
  · have hout := pair_output (t := t) (.cell response) h.owned h.same.connection
    have hnext := hout.trans (pair_setPhase (.registering handler) hout.owned hout.same)
    refine (hnext.trans (pair_count _ hnext.owned hnext.same)).abreast h ?_
    simp only [PhaseOk, phase_count, phase_setPhase]
    exact hok

/-- The loop registers a circuit, under an id of its own connection. -/
theorem Beside.register (h : Beside n s t) {handler : CircuitHandler} (hlock : s.lock = none)
    (hphase : (s.connections n).phase = .registering handler)
    (hown : ∀ ref, s.registry.lookup handler.circuitId = some ref → ref.conn = n) :
    Abreast n s t (s.register n handler) (t.register n handler) := by
  have hok := h.apart.phases n
  rw [PhaseOk, hphase] at hok
  have hother : ∀ {node : RelayNode}, (∀ ref, node.registry.lookup handler.circuitId = some ref →
      ref.conn = n) → ∀ id ref, ref.conn ≠ n →
      ((node.register n handler).registry.lookup id = some ref ↔
        node.registry.lookup id = some ref) := by
    intro node hnode id ref href
    simp only [RelayNode.register, HashMap.lookup_insert_eq]
    split
    · next heq =>
      subst heq
      constructor
      · intro hnew
        cases hnew
        exact absurd rfl href
      · exact fun hold => absurd (hnode ref hold) href
    · exact Iff.rfl
  have hconn : ∀ (node : RelayNode) m, m ≠ n →
      (node.register n handler).connections m = node.connections m := by
    intro node m hm
    simp only [RelayNode.register, connections_modify, if_neg hm]
  refine ⟨⟨rfl, rfl, hconn s, hother hown, fun m _ => Iff.rfl⟩,
    ⟨rfl, rfl, hconn t, hother fun ref hfound => hown ref (h.registry _ ref hfound),
      fun m _ => Iff.rfl⟩,
    ⟨?_, ?_⟩, ⟨h.same.nodeType, h.same.keypair, ?_, ?_, h.same.lock⟩⟩
  · -- the new circuit owns nothing yet
    intro ref c hc
    simp only [RelayNode.register, circuit?, connections_modify] at hc
    split at hc
    · next heq =>
      rw [List.getElem?_append] at hc
      split at hc
      · exact h.owned ref c (by rw [circuit?, heq]; exact hc)
      · rw [List.mem_singleton.mp (List.mem_of_getElem? hc)]
        exact ⟨by simp [HeldCircuit.admitted, hok], by simp [HeldCircuit.admitted],
          by simp [HeldCircuit.admitted]⟩
    · exact h.owned ref c hc
  · intro m
    by_cases hm : m = n
    · subst hm
      apply phaseOk_of_idle
      simp [RelayNode.register, connections_modify]
    · have hold := h.apart.phases m
      unfold PhaseOk at hold ⊢
      rw [hconn s m hm]
      cases hphase : (s.connections m).phase with
      | replying command circuitId response =>
          rw [hphase] at hold
          exact absurd hold.1 (by simp [hlock])
      | reading | ended => trivial
      | greeting handler response => simpa [hphase] using hold
      | registering handler => simpa [hphase] using hold
  · simp only [RelayNode.register, connections_modify, if_true, h.same.connection]
  · intro id ref href
    simp only [RelayNode.register, HashMap.lookup_insert_eq, h.same.connection]
    split
    · exact Iff.rfl
    · exact h.same.registry id ref href

/-- A circuit that owns the link of a reader. -/
theorem reader_prevHop {ref : CircuitRef} {c : HeldCircuit} {k : Nat} {reader : NextHopReader}
    (howned : c.OwnedBy ref) (hreader : c.reader? k = some reader) :
    reader.prevHop = ref.conn := by
  simp only [HeldCircuit.reader?, Option.bind_eq_some_iff] at hreader
  obtain ⟨link, hlink, hsome⟩ := hreader
  exact howned.readers link (List.mem_of_getElem? hlink) reader hsome

/-- The reader of a next hop writes an answer to the connection of its circuit. -/
theorem Beside.relay (h : Beside n s t) {ref : CircuitRef} {k received : Nat}
    {reader : NextHopReader} {response : Message} (stream : Except String Unit)
    (href : ref.conn = n) (hprev : reader.prevHop = n) :
    Abreast n s t (s.relay ref k reader response received stream)
      (t.relay ref k reader response received stream) := by
  unfold RelayNode.relay
  split
  · exact h.modifyCircuit href fun c _ hc => hc.setReader k _
  · rw [hprev]
    have hout := pair_output (t := t) (.cell response) h.owned h.same.connection
    have hread := hout.trans (pair_modifyCircuit (f := fun c => c.setReader k .reading) hout.owned
      hout.same href fun c _ hc => hc.setReader k _)
    have hdone := hread.trans (pair_count (fun m => m.addReceived received) hread.owned hread.same)
    exact hdone.abreast h ((h.apart.phases n).of_eq hdone.left (by simp))

/-- The reader of a next hop ends with DESTROY and a shutdown of the connection of its
circuit. -/
theorem Beside.close (h : Beside n s t) {ref : CircuitRef} {k : Nat} {reader : NextHopReader}
    (stream : Except String Unit) (href : ref.conn = n) (hprev : reader.prevHop = n) :
    Abreast n s t (s.close ref k reader stream) (t.close ref k reader stream) := by
  have hstop : ∀ {s' t' : RelayNode}, Pair n s t s' t' →
      (s'.connections n).phase = (s.connections n).phase →
      Abreast n s t
        ((s'.output n .shutdown).modifyCircuit ref fun c => c.setReader k .stopped)
        ((t'.output n .shutdown).modifyCircuit ref fun c => c.setReader k .stopped) := by
    intro s' t' hpair hphase
    have hout := hpair.trans (pair_output .shutdown hpair.owned hpair.same)
    have hdone := hout.trans (pair_modifyCircuit (f := fun c => c.setReader k .stopped) hout.owned
      hout.same href fun c _ hc => hc.setReader k _)
    refine hdone.abreast h ((h.apart.phases n).of_eq hdone.left ?_)
    rw [phase_modifyCircuit, phase_output, hphase]
  unfold RelayNode.close
  dsimp only
  rw [hprev]
  split
  · exact hstop ⟨.refl n s, .refl n t, h.owned, h.same.connection⟩ rfl
  · exact hstop (pair_output _ h.owned h.same.connection) (phase_output ..)

section

variable [Primitives]

/-- The task of a stream writes a cell to the connection of its circuit. -/
theorem Beside.emit (h : Beside n s t) {ref : CircuitRef} {i : Nat} {circuitId : CircuitId}
    {state : ExitCryptoState} {task : ExitTask} {cell : MessageCommand × Bytes}
    (stream : Except String Unit) (href : ref.conn = n) (hprev : task.prevHop = n) :
    Abreast n s t (s.emit ref i circuitId state task cell stream)
      (t.emit ref i circuitId state task cell stream) := by
  have hshared := pair_modifyCircuit (t := t)
    (f := fun c => c.setShared (state.sealCell circuitId task.streamId cell.1 cell.2).1) h.owned
    h.same.connection href fun c _ hc => hc.setShared _
  unfold RelayNode.emit
  dsimp only
  split
  · have hdone := hshared.trans (pair_modifyCircuit
      (f := fun c => c.modifyTask i fun task => { task with phase := .finished }) hshared.owned
      hshared.same href fun c _ hc => hc.modifyTask i fun _ => rfl)
    exact hdone.abreast h ((h.apart.phases n).of_eq hdone.left (by simp))
  · rw [hprev]
    have hout := hshared.trans (pair_output
      (.cell (state.sealCell circuitId task.streamId cell.1 cell.2).2) hshared.owned hshared.same)
    have hdone := hout.trans (pair_modifyCircuit
      (f := fun c => c.modifyTask i fun task => { task with phase := task.phase.advance })
      hout.owned hout.same href fun c _ hc => hc.modifyTask i fun _ => rfl)
    split
    · have hread := hdone.trans
        (pair_count (fun m => m.addReceived task.read) hdone.owned hdone.same)
      exact hread.abreast h ((h.apart.phases n).of_eq hread.left (by simp))
    · exact hdone.abreast h ((h.apart.phases n).of_eq hdone.left (by simp))

variable [AddrText]

/-- The reader of a next hop handles a cell whose id finds its own circuit. -/
theorem Beside.receive (h : Beside n s t) {ref : CircuitRef} {k : Nat} {reader : NextHopReader}
    {msg : Message} (href : ref.conn = n)
    (hown : ¬ (reader.nodeType = .entry ∧ msg.command = .destroy) →
      ∀ found, s.registry.lookup msg.circuitId = some found → found = ref) :
    Abreast n s t (s.receive ref k reader msg) (t.receive ref k reader msg) := by
  unfold RelayNode.receive
  by_cases hdestroy : reader.nodeType = .entry ∧ msg.command = .destroy
  · rw [if_pos hdestroy, if_pos hdestroy]
    exact h.modifyCircuit href fun c _ hc => hc.setReader k _
  · rw [if_neg hdestroy, if_neg hdestroy]
    have hfound := hown hdestroy
    rw [h.lookup fun found hlookup => by rw [hfound found hlookup, href]]
    cases hlookup : s.registry.lookup msg.circuitId with
    | none => exact h.modifyCircuit href fun c _ hc => hc.setReader k _
    | some found =>
        obtain rfl := hfound found hlookup
        simp only [circuit?_eq_of_same href h.same.connection]
        cases hcircuit : s.circuit? found with
        | none => exact h.refl
        | some c =>
            have hnext := (h.owned found c hcircuit).nextHop
            rw [← CircuitHandler.handleBackwardRelay_nextHop c.handler msg] at hnext
            have hhandler := pair_modifyCircuit (t := t)
              (f := fun c' => c'.setHandler (c.handler.handleBackwardRelay msg).1) h.owned
              h.same.connection href fun c' _ hc' => hc'.setHandler hnext
            have hdone := fun phase => hhandler.trans (pair_modifyCircuit
              (f := fun c' => c'.setReader k phase)
              hhandler.owned hhandler.same href fun c' _ hc' => hc'.setReader k phase)
            exact (hdone _).abreast h ((h.apart.phases n).of_eq (hdone _).left (by simp))

/-- A new handler that answers a CREATE has no next hop. -/
theorem create_nextHop (nodeType : NodeType) (circuitId : CircuitId) (keypair : KeyPair)
    (io : RelayIo) (prevHop : Option ConnId) {msg : Message} (hcommand : msg.command = .create) :
    ((CircuitHandler.new nodeType circuitId keypair).handleMessage io prevHop msg).handler.nextHop
      = none := by
  have hhop : ∀ h : HopHandler, (HopHandler.handleCreate h io msg).handler.nextHop = h.nextHop := by
    intro h
    unfold HopHandler.handleCreate
    split <;> rfl
  cases nodeType with
  | entry =>
      simp only [CircuitHandler.new, CircuitHandler.handleMessage, CircuitHandler.lift,
        EntryCircuitHandler.handleMessage, hcommand]
      exact hhop _
  | middle =>
      simp only [CircuitHandler.new, CircuitHandler.handleMessage, CircuitHandler.lift,
        MiddleCircuitHandler.handleMessage, hcommand]
      exact hhop _
  | exit => rfl

/-- The loop handles a CREATE. -/
theorem Beside.create (h : Beside n s t) {msg : Message} (io : RelayIo)
    (hcommand : msg.command = .create) :
    Abreast n s t (s.create n msg io) (t.create n msg io) := by
  unfold RelayNode.create
  rw [h.same.nodeType, h.same.keypair]
  dsimp only
  split
  · exact h.setPhase (Or.inr rfl)
  · exact h.refl
  · refine (pair_setPhase _ h.owned h.same.connection).abreast h ?_
    simp only [PhaseOk, phase_setPhase]
    exact create_nextHop s.nodeType msg.circuitId s.keypair io _ hcommand

/-- The loop handles any other cell. -/
theorem Beside.dispatch (h : Beside n s t) {msg : Message} {io : RelayIo} (hlock : s.lock = none)
    (hio : ∀ ref c, s.registry.lookup msg.circuitId = some ref → s.circuit? ref = some c →
      io.Suits ref c)
    (hown : ∀ ref, s.registry.lookup msg.circuitId = some ref → ref.conn = n) :
    Abreast n s t (s.dispatch n msg io) (t.dispatch n msg io) := by
  unfold RelayNode.dispatch
  rw [h.lookup hown]
  cases hlookup : s.registry.lookup msg.circuitId with
  | none => exact h.setPhase (Or.inr rfl)
  | some ref =>
      have href := hown ref hlookup
      simp only [circuit?_eq_of_same href h.same.connection]
      cases hcircuit : s.circuit? ref with
      | none => exact h.refl
      | some c =>
          refine h.handle href hlock ?_ hown
          have hnext := (h.owned ref c hcircuit).nextHop
          refine CircuitHandler.handleMessage_within c.handler msg ?_ hnext
          intro addr fingerprint conn hconnect
          exact ⟨_, (hio ref c hlookup hcircuit).connect addr fingerprint conn hconnect⟩

/-- No cell of a previous hop, and no CREATE of one, names an id under which the registry
holds the circuit of another connection. No cell of a next hop names an id under which it
holds another circuit than the one that opened the connection; the DESTROY at which an
entry relay ends names none. -/
def Orderly (node : RelayNode) : RelayNodeEvent → Prop
  | .arrives n msg _ => ∀ ref, node.registry.lookup msg.circuitId = some ref → ref.conn = n
  | .registers n =>
      ∀ handler, (node.connections n).phase = .registering handler →
        ∀ ref, node.registry.lookup handler.circuitId = some ref → ref.conn = n
  | .receives ref k msg =>
      ∀ c reader, node.circuit? ref = some c → c.reader? k = some reader →
        ¬ (reader.nodeType = .entry ∧ msg.command = .destroy) →
          ∀ found, node.registry.lookup msg.circuitId = some found → found = ref
  | _ => True

/-- A step in which no ids meet is taken side by side. -/
theorem step_abreast {e : RelayNodeEvent} (h : Beside e.conn s t) (horderly : s.Orderly e)
    (hstep : Step s e s') : ∃ t', Step t e t' ∧ Abreast e.conn s t s' t' := by
  have hsame := h.same.connection
  cases hstep with
  | @arrives n msg io hphase hlock hcommand hio =>
      have hphase' := (congrArg RelayConnection.phase hsame).trans hphase
      have hlookup := h.lookup horderly
      have hdispatch := h.dispatch hlock hio horderly
      refine ⟨_, .arrives msg io hphase' (h.lock_none hlock) hcommand ?_, hdispatch⟩
      intro ref c hfound hcircuit
      rw [hlookup] at hfound
      rw [circuit?_eq_of_same (horderly ref hfound) hsame] at hcircuit
      exact hio ref c hfound hcircuit
  | @creates n msg io hphase hcommand =>
      have hphase' := (congrArg RelayConnection.phase hsame).trans hphase
      exact ⟨_, .creates msg io hphase' hcommand, h.create io hcommand⟩
  | @greets n handler response stream hphase =>
      have hphase' := (congrArg RelayConnection.phase hsame).trans hphase
      exact ⟨_, .greets stream hphase', h.greet stream hphase⟩
  | @registers n handler hphase hlock =>
      have hphase' := (congrArg RelayConnection.phase hsame).trans hphase
      exact ⟨_, .registers hphase' (h.lock_none hlock),
        h.register hlock hphase (horderly handler hphase)⟩
  | @replies n command circuitId response stream hphase =>
      have hphase' := (congrArg RelayConnection.phase hsame).trans hphase
      exact ⟨_, .replies stream hphase', h.reply stream hphase⟩
  | @hangsUp n hphase =>
      have hphase' := (congrArg RelayConnection.phase hsame).trans hphase
      exact ⟨_, .hangsUp hphase', h.setPhase (Or.inr rfl)⟩
  | @receives ref c k reader msg hcircuit hreader hphase hlock =>
      have hcircuit' := (circuit?_eq_of_same rfl hsame).trans hcircuit
      exact ⟨_, .receives msg hcircuit' hreader hphase (h.lock_none hlock),
        h.receive rfl (horderly c reader hcircuit hreader)⟩
  | @loses ref c k reader hcircuit hreader hphase =>
      have hcircuit' := (circuit?_eq_of_same rfl hsame).trans hcircuit
      exact ⟨_, .loses hcircuit' hreader hphase,
        h.modifyCircuit rfl fun c _ hc => hc.setReader k _⟩
  | @relays ref c k reader response received stream hcircuit hreader hphase =>
      have hcircuit' := (circuit?_eq_of_same rfl hsame).trans hcircuit
      exact ⟨_, .relays stream hcircuit' hreader hphase,
        h.relay stream rfl (reader_prevHop (h.owned ref c hcircuit) hreader)⟩
  | @closes ref c k reader stream hcircuit hreader hphase =>
      have hcircuit' := (circuit?_eq_of_same rfl hsame).trans hcircuit
      exact ⟨_, .closes stream hcircuit' hreader hphase,
        h.close stream rfl (reader_prevHop (h.owned ref c hcircuit) hreader)⟩
  | @reads ref c i task read hcircuit htask hphase =>
      have hcircuit' := (circuit?_eq_of_same rfl hsame).trans hcircuit
      exact ⟨_, .reads read hcircuit' htask hphase,
        h.modifyCircuit rfl fun c _ hc => hc.modifyTask i fun _ => rfl⟩
  | @emits ref c i task state cell stream hcircuit htask hcell hshared =>
      have hcircuit' := (circuit?_eq_of_same rfl hsame).trans hcircuit
      have hprev := (h.owned ref c hcircuit).tasks task (List.mem_of_getElem? htask)
      exact ⟨_, .emits stream hcircuit' htask hcell hshared, h.emit stream rfl hprev⟩
  | @forwards ref c i task data rest hcircuit htask hphase hqueued =>
      have hcircuit' := (circuit?_eq_of_same rfl hsame).trans hcircuit
      exact ⟨_, .forwards hcircuit' htask hphase hqueued,
        h.modifyCircuit rfl fun c _ hc => hc.modifyTask i fun _ => rfl⟩
  | @stops ref c i task hcircuit htask hphase =>
      have hcircuit' := (circuit?_eq_of_same rfl hsame).trans hcircuit
      exact ⟨_, .stops hcircuit' htask hphase,
        h.modifyCircuit rfl fun c _ hc => hc.modifyTask i fun _ => rfl⟩

end

/-! ## Whole runs -/

/-- What a step may do: it changes what belongs to one connection, and the cell of a next
hop changes no other circuit than the one that opened the connection. -/
structure Isolated (before : RelayNode) (e : RelayNodeEvent) (after : RelayNode) : Prop where
  confined : Confined e.conn before after
  backward : ∀ ref k msg, e = .receives ref k msg →
    ∀ other, other ≠ ref → after.circuit? other = before.circuit? other

/-- A relay as it would be without the connections that are not `mine`. -/
structure View (mine : Nat → Bool) (s t : RelayNode) : Prop where
  apart : s.Apart
  same : ∀ n, mine n = true → Same n s t
  registry : ∀ id ref, t.registry.lookup id = some ref → mine ref.conn = true
  lock : ∀ m, t.lock = some m → mine m = true

/-- A relay is beside itself. -/
theorem Apart.beside (h : s.Apart) (n : Nat) : Beside n s s :=
  ⟨h, ⟨rfl, rfl, rfl, fun _ _ _ => Iff.rfl, Iff.rfl⟩, fun _ _ => id, fun _ => id⟩

/-- A view holds what belongs to each connection that is mine. -/
theorem View.beside {mine : Nat → Bool} (h : View mine s t) (hn : mine n = true) :
    Beside n s t :=
  ⟨h.apart, h.same n hn,
    fun id ref hlookup => ((h.same _ (h.registry id ref hlookup)).registry id ref rfl).mp hlookup,
    fun m hlock => ((h.same m (h.lock m hlock)).lock).mp hlock⟩

/-- What belongs to one connection stays the same when others change. -/
theorem Same.of_confined {m : Nat} (h : Same m s t) (hne : m ≠ n) (hleft : Confined n s s')
    (hright : Confined n t t') : Same m s' t' := by
  refine ⟨?_, ?_, ?_, ?_, ?_⟩
  · rw [hright.nodeType, h.nodeType, hleft.nodeType]
  · rw [hright.keypair, h.keypair, hleft.keypair]
  · rw [hright.connections m hne, h.connection, hleft.connections m hne]
  · intro id ref href
    have hother : ref.conn ≠ n := fun heq => hne (href.symm.trans heq)
    exact (hright.registry id ref hother).trans
      ((h.registry id ref href).trans (hleft.registry id ref hother).symm)
  · exact (hright.lock m hne).trans (h.lock.trans (hleft.lock m hne).symm)

/-- What has not changed is confined to any connection. -/
theorem Confined.refl (n : Nat) (s : RelayNode) : Confined n s s :=
  ⟨rfl, rfl, fun _ _ => rfl, fun _ _ _ => Iff.rfl, fun _ _ => Iff.rfl⟩

/-- A relay that has just started. -/
theorem apart_start (nodeType : NodeType) (keypair : KeyPair) :
    (start nodeType keypair).Apart := by
  refine ⟨?_, fun n => trivial⟩
  intro ref c hc
  simp [circuit?, start] at hc

variable [Primitives] [AddrText]

/-- A step of one of my connections is a step of the view. -/
theorem View.kept {mine : Nat → Bool} {e : RelayNodeEvent} (h : View mine s t)
    (hmine : mine e.conn = true) (horderly : s.Orderly e) (hstep : Step s e s') :
    ∃ t', Step t e t' ∧ View mine s' t' := by
  obtain ⟨t', hstep', habreast⟩ := step_abreast (h.beside hmine) horderly hstep
  refine ⟨t', hstep', habreast.apart, ?_, ?_, ?_⟩
  · intro m hm
    by_cases heq : m = e.conn
    · subst heq
      exact habreast.same
    · exact (h.same m hm).of_confined heq habreast.left habreast.right
  · intro id ref hlookup
    by_cases heq : ref.conn = e.conn
    · rwa [heq]
    · exact h.registry id ref ((habreast.right.registry id ref heq).mp hlookup)
  · intro m hlock
    by_cases heq : m = e.conn
    · rwa [heq]
    · exact h.lock m ((habreast.right.lock m heq).mp hlock)

/-- A step of another connection does not show in the view. -/
theorem View.skipped {mine : Nat → Bool} {e : RelayNodeEvent} (h : View mine s t)
    (hmine : mine e.conn = false) (horderly : s.Orderly e) (hstep : Step s e s') :
    View mine s' t := by
  obtain ⟨t', -, habreast⟩ := step_abreast (h.apart.beside e.conn) horderly hstep
  refine ⟨habreast.apart, ?_, h.registry, h.lock⟩
  intro m hm
  have hne : m ≠ e.conn := by
    rintro rfl
    simp [hm] at hmine
  exact (h.same m hm).of_confined hne habreast.left (.refl _ t)

/-- The cell of a next hop whose id finds no other circuit changes no other circuit. -/
theorem receive_other {ref : CircuitRef} {k : Nat} {reader : NextHopReader} {msg : Message}
    (hown : ¬ (reader.nodeType = .entry ∧ msg.command = .destroy) →
      ∀ found, s.registry.lookup msg.circuitId = some found → found = ref)
    {other : CircuitRef} (hne : other ≠ ref) :
    (s.receive ref k reader msg).circuit? other = s.circuit? other := by
  unfold receive
  split
  · rw [circuit?_modifyCircuit, if_neg hne]
  · next hdestroy =>
    split
    · rw [circuit?_modifyCircuit, if_neg hne]
    · next found hlookup =>
      obtain rfl := hown hdestroy found hlookup
      split
      · rfl
      · dsimp only
        rw [circuit?_modifyCircuit, if_neg hne, circuit?_modifyCircuit, if_neg hne]

/-- As long as no cell names an id that belongs to another connection, every step keeps to
its connection, and any group of connections is in the state it would be in if the others
were absent. -/
theorem connections_isolated {nodeType : NodeType} {keypair : KeyPair}
    {es : List RelayNodeEvent} {e : RelayNodeEvent}
    (hrun : ((system nodeType keypair).restrict Orderly).Run (start nodeType keypair) es s)
    (horderly : s.Orderly e) (hstep : Step s e t) :
    Isolated s e t ∧
      ∀ mine : Nat → Bool, ∃ u,
        (system nodeType keypair).Run (start nodeType keypair)
          ((es ++ [e]).filter fun e => mine e.conn) u ∧
        ∀ n, mine n = true → u.connections n = t.connections n := by
  have hwhole : ((system nodeType keypair).restrict Orderly).Run (start nodeType keypair)
      (es ++ [e]) t := hrun.snoc ⟨horderly, hstep⟩
  have hproject : ∀ mine : Nat → Bool, ∀ {es : List RelayNodeEvent} {s : RelayNode},
      ((system nodeType keypair).restrict Orderly).Run (start nodeType keypair) es s →
      ∃ u, (system nodeType keypair).Run (start nodeType keypair)
          (es.filter fun e => mine e.conn) u ∧ View mine s u := by
    intro mine es s hrun
    refine hrun.project (View mine) (fun e => mine e.conn) ?_ ?_ ?_
    · exact fun s e s' t hkeep hlast hview => hview.kept hkeep hlast.1 hlast.2
    · exact fun s e s' t hskip hlast hview => hview.skipped hskip hlast.1 hlast.2
    · refine ⟨apart_start nodeType keypair, fun n _ => ?_, ?_, ?_⟩
      · exact ((apart_start nodeType keypair).beside n).same
      · simp [start]
      · simp [start]
  constructor
  · obtain ⟨_, _, hview⟩ := hproject (fun _ => true) hrun
    obtain ⟨t', -, habreast⟩ := step_abreast (hview.apart.beside e.conn) horderly hstep
    refine ⟨habreast.left, ?_⟩
    rintro ref k msg rfl other hne
    cases hstep with
    | receives msg hcircuit hreader hphase hlock =>
        exact receive_other (horderly _ _ hcircuit hreader) hne
  · intro mine
    obtain ⟨u, hu, hview⟩ := hproject mine hwhole
    exact ⟨u, hu, fun n hn => (hview.same n hn).connection⟩

end

/-! ## Two clients -/

/-- A CREATE with an id under which the registry holds no circuit of another connection. -/
theorem run_create [Primitives] [AddrText] (nodeType : NodeType) (keypair : KeyPair)
    (node : RelayNode) (n : Nat) (circuitId : CircuitId) (io : RelayIo)
    (clientPublic : FixedBytes 32) (hphase : (node.connections n).phase = .reading)
    (hlock : node.lock = none)
    (hown : ∀ ref, node.registry.lookup circuitId = some ref → ref.conn = n) :
    ∃ handler after,
      ((system nodeType keypair).restrict Orderly).Run node
        [.creates n (Message.create circuitId clientPublic.1) io, .writes n (.ok ()),
          .registers n] after ∧
      Admitted node n circuitId handler after := by
  obtain ⟨handler, key, greeting, registering, after, hcreate, hwrite, hwaits, hregistry,
    hregister, hholds, hadmitted⟩ := create_steps node n circuitId io clientPublic hphase hlock
  have horder : registering.Orderly (.registers n) := by
    intro handler' hphase' ref hfound
    rw [hwaits] at hphase'
    cases hphase'
    have hid : handler.circuitId = circuitId := hholds.id
    rw [hregistry, hid] at hfound
    exact hown ref hfound
  have hnil : ((system nodeType keypair).restrict Orderly).Run node [] node := .nil _
  have hfirst : ((system nodeType keypair).restrict Orderly).step node
      (.creates n (Message.create circuitId clientPublic.1) io) greeting := ⟨trivial, hcreate⟩
  have hsecond : ((system nodeType keypair).restrict Orderly).step greeting (.writes n (.ok ()))
      registering := ⟨trivial, hwrite⟩
  exact ⟨handler, after, ((hnil.snoc hfirst).snoc hsecond).snoc ⟨horder, hregister⟩, hadmitted⟩

/-- A DESTROY for a circuit without streams. -/
theorem destroy_step [Primitives] [AddrText] {node : RelayNode} {n : Nat} {circuitId : CircuitId}
    {ref : CircuitRef} {handler : CircuitHandler} (ySecret : FixedBytes 32)
    (hphase : (node.connections n).phase = .reading) (hlock : node.lock = none)
    (hlookup : node.registry.lookup circuitId = some ref)
    (hcircuit : node.circuit? ref = some (HeldCircuit.admitted handler)) :
    Step node (.arrives n (Message.destroy circuitId) (.offline ySecret))
      (node.dispatch n (Message.destroy circuitId) (.offline ySecret)) := by
  refine .arrives _ _ hphase hlock (by simp [Message.destroy, Message.circuit, Message.new]) ?_
  intro ref' c hfound hc
  rw [show (Message.destroy circuitId).circuitId = circuitId from rfl, hlookup] at hfound
  cases hfound
  rw [hcircuit] at hc
  cases hc
  exact RelayIo.offline_suits ySecret ref rfl

section

open Reference

/-- The key pair of an example relay. -/
def sampleKeypair : KeyPair := KeyPair.fromSecretBytes (FixedBytes.ofNat 32 5)

/-- Two clients with different ids: after one of them has sent DESTROY, the other's
connection is as it would be without the first client. -/
theorem connections_isolated_twoClients :
    ∃ es s t, (system .entry sampleKeypair).Run (start .entry sampleKeypair) es s ∧
      Step s (.arrives 0 (Message.destroy 1) (.offline (FixedBytes.ofNat 32 7))) t ∧
      ∀ mine : Nat → Bool, ∃ u, (system .entry sampleKeypair).Run (start .entry sampleKeypair)
        ((es ++ [RelayNodeEvent.arrives 0 (Message.destroy 1)
          (.offline (FixedBytes.ofNat 32 7))]).filter fun e => mine e.conn) u ∧
        ∀ n, mine n = true → u.connections n = t.connections n := by
  let io := RelayIo.offline (FixedBytes.ofNat 32 7)
  obtain ⟨h₁, c₁, hrun₁, hadmitted₁⟩ := run_create .entry sampleKeypair
    (start .entry sampleKeypair) 0 1 io (FixedBytes.ofNat 32 8) rfl rfl
    (by simp [start])
  obtain ⟨h₂, c₂, hrun₂, hadmitted₂⟩ := run_create .entry sampleKeypair c₁ 1 2 io
    (FixedBytes.ofNat 32 9) (by rw [hadmitted₁.connections 1 (by decide)]; rfl)
    (by rw [hadmitted₁.lock]; rfl)
    (by rw [hadmitted₁.registry, HashMap.lookup_insert_eq]; simp [start])
  have hlookup : c₂.registry.lookup 1 = some ⟨0, 0⟩ := by
    rw [hadmitted₂.registry, hadmitted₁.registry]
    rfl
  have hcircuit : c₂.circuit? ⟨0, 0⟩ = some (HeldCircuit.admitted h₁) := by
    rw [circuit?, hadmitted₂.connections 0 (by decide), hadmitted₁.circuits]
    rfl
  have hlast := destroy_step (FixedBytes.ofNat 32 7)
    (by rw [hadmitted₂.connections 0 (by decide), hadmitted₁.phase])
    (by rw [hadmitted₂.lock, hadmitted₁.lock]; rfl) hlookup hcircuit
  have horder : c₂.Orderly (.arrives 0 (Message.destroy 1) io) := by
    intro ref hfound
    rw [show (Message.destroy 1).circuitId = 1 from rfl, hlookup] at hfound
    cases hfound
    rfl
  have hrun := hrun₁.trans hrun₂
  exact ⟨_, c₂, _, hrun.of_restrict, hlast, (connections_isolated hrun horder hlast).2⟩

/-- Two clients that both use circuit id 1: the second CREATE takes the place of the first
circuit in the registry, and the DESTROY of the first client then closes the circuit of the
second. -/
theorem not_isolated_sameIds :
    ¬ ∀ (nodeType : NodeType) (keypair : KeyPair) es s e t,
      (system nodeType keypair).Run (start nodeType keypair) es s → Step s e t →
        Isolated s e t := by
  intro hclaim
  let io := RelayIo.offline (FixedBytes.ofNat 32 7)
  obtain ⟨h₁, c₁, hrun₁, hadmitted₁⟩ := run_create .entry sampleKeypair
    (start .entry sampleKeypair) 0 1 io (FixedBytes.ofNat 32 8) rfl rfl
    (by simp [start])
  obtain ⟨h₂, key₂, a₂, b₂, c₂, hcreate₂, hwrite₂, -, -, hregister₂, hholds₂, hadmitted₂⟩ :=
    create_steps c₁ 1 1 io (FixedBytes.ofNat 32 9)
      (by rw [hadmitted₁.connections 1 (by decide)]; rfl) (by rw [hadmitted₁.lock]; rfl)
  have hlookup : c₂.registry.lookup 1 = some ⟨1, 0⟩ := by
    rw [hadmitted₂.registry, hadmitted₁.connections 1 (by decide)]
    simp [start]
  have hcircuit : c₂.circuit? ⟨1, 0⟩ = some (HeldCircuit.admitted h₂) := by
    rw [circuit?, hadmitted₂.circuits, hadmitted₁.connections 1 (by decide)]
    rfl
  have hrun : (system .entry sampleKeypair).Run (start .entry sampleKeypair) _ c₂ :=
    ((hrun₁.of_restrict.snoc hcreate₂).snoc hwrite₂).snoc hregister₂
  have hlast := destroy_step (FixedBytes.ofNat 32 7)
    (by rw [hadmitted₂.connections 0 (by decide), hadmitted₁.phase])
    (by rw [hadmitted₂.lock, hadmitted₁.lock]; rfl) hlookup hcircuit
  -- the second client's handler is closed by a step of the first client's connection
  have hsame := (hclaim .entry sampleKeypair _ _ _ _ hrun hlast).confined.connections 1 (by decide)
  have hafter : (c₂.dispatch 0 (Message.destroy 1) io).circuit? ⟨1, 0⟩ =
      some ((HeldCircuit.admitted h₂).setHandler h₂.close) := by
    rw [dispatch_destroy rfl hlookup hcircuit, circuit?_count, circuit?_setPhase,
      circuit?_modifyCircuit, if_pos rfl, hcircuit]
    rfl
  have hkept : (c₂.dispatch 0 (Message.destroy 1) io).circuit? ⟨1, 0⟩ = c₂.circuit? ⟨1, 0⟩ := by
    unfold circuit?
    rw [hsame]
  rw [hkept, hcircuit] at hafter
  have hstate := congrArg (fun c => c.handler.sessionKey) (Option.some.inj hafter)
  have hkey : h₂.sessionKey = some key₂ := hholds₂.key
  have hclosed : h₂.close.sessionKey = none := by cases h₂ <;> rfl
  simp [HeldCircuit.admitted, HeldCircuit.setHandler, hkey, hclosed] at hstate

end

end RelayNode

end NoPanic
