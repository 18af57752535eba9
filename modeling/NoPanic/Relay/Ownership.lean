/-
# What a circuit of a relay owns

A circuit owns the connections it opened, their readers and the tasks of its streams,
and all of them write to the connection its CREATE came in on. The module says for
every handler and every task of a relay that what it does stays with one circuit and
that connection: two relays with the same connection change it in the same way, and
change nothing else.
-/

import NoPanic.Relay.RelayNode

namespace NoPanic

open NoPanic.Math

/-! ## Where a handler acts -/

/-- An effect stays with a circuit and with the connection of the calling loop. -/
def RelayEffect.Within (n : Nat) (ref : CircuitRef) : RelayEffect → Prop
  | .dial _ _ conn => ∃ k, conn = .next ref k
  | .send conn _ => conn = .prev n ∨ ∃ k, conn = .next ref k
  | _ => True

namespace RelayEffect

variable {n : Nat} {ref : CircuitRef}

@[simp]
theorem within_recovered (streamId : StreamId) (command : MessageCommand) (data : Bytes) :
    (recovered streamId command data).Within n ref := trivial

@[simp]
theorem within_sealed (streamId : StreamId) (command : MessageCommand) (data : Bytes) :
    (sealed streamId command data).Within n ref := trivial

@[simp]
theorem within_attempt (addr : SocketAddr) : (attempt addr).Within n ref := trivial

@[simp]
theorem within_openStream (streamId : StreamId) (destination : String) :
    (openStream streamId destination).Within n ref := trivial

@[simp]
theorem within_queue (streamId : StreamId) (data : Bytes) :
    (queue streamId data).Within n ref := trivial

@[simp]
theorem within_send_prev (msg : Message) : (send (.prev n) msg).Within n ref := Or.inl rfl

end RelayEffect

/-- A next hop that the circuit `ref` opened. -/
structure NextHop.OwnedBy (hop : NextHop) (ref : CircuitRef) : Prop where
  write : ∃ k, hop.write = .next ref k
  read : ∀ conn, hop.read = some conn → ∃ k, conn = .next ref k

/-- A call that stays with its circuit. -/
structure StaysWithin {H R : Type} (nextHop : H → Option NextHop) (n : Nat) (ref : CircuitRef)
    (out : Handled H R) : Prop where
  effects : ∀ effect ∈ out.effects, effect.Within n ref
  nextHop : ∀ hop, nextHop out.handler = some hop → hop.OwnedBy ref

/-- A new next hop is owned by the circuit that opened it. -/
theorem NextHop.ownedBy_new {conn : ConnId} {ref : CircuitRef} (hown : ∃ k, conn = .next ref k) :
    (NextHop.new conn).OwnedBy ref := by
  refine ⟨hown, ?_⟩
  intro conn' hread
  cases hread
  exact hown

section

variable [Primitives] {io : RelayIo} {n : Nat} {ref : CircuitRef}

namespace HopHandler

/-- EXTEND, up to the answer, dials and writes to a new connection of the circuit. -/
theorem openExtend_within [AddrText] (texts : HopTexts) (h : HopHandler) (msg : Message)
    (hconnect : ∀ addr fingerprint conn, io.connect addr fingerprint = .ok conn →
      ∃ k, conn = .next ref k) (hnext : ∀ hop, h.nextHop = some hop → hop.OwnedBy ref) :
    StaysWithin HopHandler.nextHop n ref (openExtend texts h io msg) ∧
      ∀ conn createdMsg, (openExtend texts h io msg).result = .ok (conn, createdMsg) →
        ∃ k, conn = .next ref k := by
  unfold openExtend
  split
  · exact ⟨⟨by simp, hnext⟩, by simp⟩
  · dsimp only
    split
    · exact ⟨⟨by simp, hnext⟩, by simp⟩
    · split
      · exact ⟨⟨by simp, hnext⟩, by simp⟩
      · split
        · exact ⟨⟨by simp, hnext⟩, by simp⟩
        · next conn hconn =>
          have hown := hconnect _ _ _ hconn
          have hdial : ∀ addr fingerprint, (RelayEffect.dial addr fingerprint conn).Within n ref :=
            fun _ _ => hown
          have hsend : ∀ m, (RelayEffect.send conn m).Within n ref := fun _ => Or.inr hown
          split
          · exact ⟨⟨by simp [hdial], hnext⟩, by simp⟩
          · split
            · exact ⟨⟨by simp [hdial, hsend], hnext⟩, by simp⟩
            · exact ⟨⟨by simp [hdial, hsend], hnext⟩, by simp⟩
            · exact ⟨⟨by simp [hdial, hsend], hnext⟩, by simp⟩
            · split
              · exact ⟨⟨by simp [hdial, hsend], hnext⟩, by simp⟩
              · refine ⟨⟨by simp [hdial, hsend], hnext⟩, ?_⟩
                intro conn' createdMsg heq
                cases heq
                exact hown

/-- A cell that is passed on goes to the next hop. -/
theorem handleRelay_within (texts : HopTexts) (h : HopHandler) (msg : Message)
    (hnext : ∀ hop, h.nextHop = some hop → hop.OwnedBy ref) :
    StaysWithin HopHandler.nextHop n ref (handleRelay texts h io msg) := by
  unfold handleRelay
  split
  · exact ⟨by simp, hnext⟩
  · dsimp only
    split
    · exact ⟨by simp, hnext⟩
    · next hop hhop =>
      split
      · exact ⟨by simp, hnext⟩
      · refine ⟨?_, hnext⟩
        intro effect hmem
        rw [List.mem_singleton.mp hmem]
        exact Or.inr (hnext hop hhop).write

/-- CREATE does nothing outside. -/
theorem handleCreate_within (h : HopHandler) (msg : Message)
    (hnext : ∀ hop, h.nextHop = some hop → hop.OwnedBy ref) :
    StaysWithin HopHandler.nextHop n ref (handleCreate h io msg) := by
  unfold handleCreate
  split
  · exact ⟨by simp, hnext⟩
  · exact ⟨by simp, hnext⟩

/-- The next hop that EXTEND leaves. -/
theorem finishExtend_nextHop (h : HopHandler) (conn : ConnId) (createdMsg : Message) :
    (finishExtend h conn createdMsg).1.nextHop = some (NextHop.new conn) := by
  unfold finishExtend
  dsimp only
  split <;> rfl

end HopHandler

/-- An exit handler writes to nothing but the connection it is called for. -/
theorem ExitCircuitHandler.handleMessage_within (h : ExitCircuitHandler) (msg : Message) :
    ∀ effect ∈ (h.handleMessage io (some (.prev n)) msg).effects, effect.Within n ref := by
  unfold ExitCircuitHandler.handleMessage
  split
  · unfold handleCreate
    split
    · simp
    · dsimp only
      split <;> simp
  · dsimp only
    unfold handleBegin
    split
    · simp
    · dsimp only
      split
      · simp
      · split
        · simp
        · split
          · split
            · simp [or_imp, forall_and]
            · simp [or_imp, forall_and]
          · simp [replyEnd, or_imp, forall_and]
  · unfold handleData
    split
    · simp
    · dsimp only
      split
      · simp
      · split
        · split
          · simp [or_imp, forall_and]
          · simp [replyEnd, or_imp, forall_and]
        · simp [replyEnd, or_imp, forall_and]
  · unfold handleEnd
    split
    · simp
    · dsimp only
      split
      · simp
      · simp [replyEnd, or_imp, forall_and]
  · simp
  · simp
  · simp
  · simp
  · simp
  · simp

variable [AddrText]

/-- A call of an entry handler stays with its circuit. -/
theorem EntryCircuitHandler.handleMessage_within (h : EntryCircuitHandler) (msg : Message)
    (hconnect : ∀ addr fingerprint conn, io.connect addr fingerprint = .ok conn →
      ∃ k, conn = .next ref k) (hnext : ∀ hop, h.nextHop = some hop → hop.OwnedBy ref) :
    StaysWithin HopHandler.nextHop n ref (EntryCircuitHandler.handleMessage h io msg) := by
  unfold EntryCircuitHandler.handleMessage
  split
  · exact HopHandler.handleCreate_within h msg hnext
  · split
    · exact HopHandler.handleRelay_within _ h msg hnext
    · unfold EntryCircuitHandler.handleExtend
      have hopen := HopHandler.openExtend_within (n := n) EntryCircuitHandler.texts h msg hconnect
        hnext
      split
      · next heq =>
        rw [heq] at hopen
        exact ⟨hopen.1.effects, hopen.1.nextHop⟩
      · next conn createdMsg heq =>
        rw [heq] at hopen
        refine ⟨hopen.1.effects, ?_⟩
        intro hop hhop
        rw [HopHandler.finishExtend_nextHop] at hhop
        cases hhop
        exact NextHop.ownedBy_new (hopen.2 conn createdMsg rfl)
  · exact HopHandler.handleRelay_within _ h msg hnext
  · exact HopHandler.handleRelay_within _ h msg hnext
  · exact HopHandler.handleRelay_within _ h msg hnext
  · exact HopHandler.handleRelay_within _ h msg hnext
  · exact ⟨by simp, by simp [close, HopHandler.close]⟩
  · exact ⟨by simp, hnext⟩
  · exact ⟨by simp, hnext⟩
  · exact ⟨by simp, hnext⟩

/-- A call of a middle handler stays with its circuit. -/
theorem MiddleCircuitHandler.handleMessage_within (h : MiddleCircuitHandler) (msg : Message)
    (hconnect : ∀ addr fingerprint conn, io.connect addr fingerprint = .ok conn →
      ∃ k, conn = .next ref k) (hnext : ∀ hop, h.nextHop = some hop → hop.OwnedBy ref) :
    StaysWithin HopHandler.nextHop n ref (MiddleCircuitHandler.handleMessage h io msg) := by
  unfold MiddleCircuitHandler.handleMessage
  split
  · exact HopHandler.handleCreate_within h msg hnext
  · split
    · exact HopHandler.handleRelay_within _ h msg hnext
    · unfold MiddleCircuitHandler.handleExtend
      have hopen := HopHandler.openExtend_within (n := n) MiddleCircuitHandler.texts h msg hconnect
        hnext
      split
      · next heq =>
        rw [heq] at hopen
        exact ⟨hopen.1.effects, hopen.1.nextHop⟩
      · next conn createdMsg heq =>
        rw [heq] at hopen
        split
        · exact ⟨hopen.1.effects, hopen.1.nextHop⟩
        · refine ⟨hopen.1.effects, ?_⟩
          intro hop hhop
          rw [HopHandler.finishExtend_nextHop] at hhop
          cases hhop
          exact NextHop.ownedBy_new (hopen.2 conn createdMsg rfl)
  · unfold MiddleCircuitHandler.handleExtended
    split
    · exact ⟨by simp, hnext⟩
    · exact ⟨by simp, hnext⟩
  · exact HopHandler.handleRelay_within _ h msg hnext
  · exact HopHandler.handleRelay_within _ h msg hnext
  · exact HopHandler.handleRelay_within _ h msg hnext
  · exact HopHandler.handleRelay_within _ h msg hnext
  · exact ⟨by simp, by simp [close, HopHandler.close]⟩
  · exact ⟨by simp, hnext⟩
  · exact ⟨by simp, hnext⟩

/-- A call of any handler stays with its circuit. -/
theorem CircuitHandler.handleMessage_within (handler : CircuitHandler) (msg : Message)
    (hconnect : ∀ addr fingerprint conn, io.connect addr fingerprint = .ok conn →
      ∃ k, conn = .next ref k) (hnext : ∀ hop, handler.nextHop = some hop → hop.OwnedBy ref) :
    StaysWithin CircuitHandler.nextHop n ref
      (handler.handleMessage io (some (.prev n)) msg) := by
  cases handler with
  | entry h =>
      have hcall := EntryCircuitHandler.handleMessage_within (n := n) h msg hconnect hnext
      exact ⟨hcall.effects, hcall.nextHop⟩
  | middle h =>
      have hcall := MiddleCircuitHandler.handleMessage_within (n := n) h msg hconnect hnext
      exact ⟨hcall.effects, hcall.nextHop⟩
  | exit h =>
      refine ⟨ExitCircuitHandler.handleMessage_within h msg, ?_⟩
      intro hop hhop
      exact absurd hhop (by simp [handleMessage, lift, nextHop])

end

/-! ## Changes of one connection -/

/-- Taking the read half of a next hop that the circuit owns. -/
theorem CircuitHandler.takeReader_ownedBy (handler : CircuitHandler) {ref : CircuitRef}
    {handler' : CircuitHandler} {read : Option ConnId}
    (hnext : ∀ hop, handler.nextHop = some hop → hop.OwnedBy ref)
    (htake : handler.takeReader = (handler', read)) :
    (∀ hop, handler'.nextHop = some hop → hop.OwnedBy ref) ∧
      ∀ conn, read = some conn → ∃ k, conn = .next ref k := by
  have hhop : ∀ h : HopHandler, (∀ hop, h.nextHop = some hop → hop.OwnedBy ref) →
      (∀ hop, (HopHandler.takeReader h).1.nextHop = some hop → hop.OwnedBy ref) ∧
        ∀ conn, (HopHandler.takeReader h).2 = some conn → ∃ k, conn = .next ref k := by
    intro h hown
    unfold HopHandler.takeReader
    split
    · exact ⟨hown, by simp⟩
    · next hop hhop =>
      refine ⟨?_, (hown hop hhop).read⟩
      intro hop' heq
      cases heq
      exact ⟨(hown hop hhop).write, by simp [NextHop.takeRead]⟩
  cases handler with
  | entry h => cases htake; exact hhop h hnext
  | middle h => cases htake; exact hhop h hnext
  | exit h => cases htake; exact ⟨hnext, by simp⟩

/-- What a circuit owns points back to it. -/
structure HeldCircuit.OwnedBy (c : HeldCircuit) (ref : CircuitRef) : Prop where
  nextHop : ∀ hop, c.handler.nextHop = some hop → hop.OwnedBy ref
  readers : ∀ link ∈ c.links, ∀ reader, link.reader = some reader → reader.prevHop = ref.conn
  tasks : ∀ task ∈ c.tasks, task.prevHop = ref.conn

namespace RelayNode

/-- What the circuits of a relay own points back to them. -/
def CircuitsOwned (node : RelayNode) : Prop :=
  ∀ ref c, node.circuit? ref = some c → c.OwnedBy ref

/-- `after` differs from `before` in nothing but connection `n` and the counters. -/
structure Updates (n : Nat) (before after : RelayNode) : Prop where
  nodeType : after.nodeType = before.nodeType
  keypair : after.keypair = before.keypair
  registry : after.registry = before.registry
  lock : after.lock = before.lock
  connections : ∀ m, m ≠ n → after.connections m = before.connections m

/-- Two relays with the same connection `n` change it in the same way. -/
structure Pair (n : Nat) (s t s' t' : RelayNode) : Prop where
  left : Updates n s s'
  right : Updates n t t'
  owned : s'.CircuitsOwned
  same : t'.connections n = s'.connections n

section

variable {n : Nat} {s t s' t' s'' t'' : RelayNode}

theorem Updates.refl (n : Nat) (s : RelayNode) : Updates n s s :=
  ⟨rfl, rfl, rfl, rfl, fun _ _ => rfl⟩

theorem Updates.trans (first : Updates n s s') (second : Updates n s' s'') : Updates n s s'' :=
  ⟨second.nodeType.trans first.nodeType, second.keypair.trans first.keypair,
    second.registry.trans first.registry, second.lock.trans first.lock,
    fun m hm => (second.connections m hm).trans (first.connections m hm)⟩

/-- Changes of one pair compose. -/
theorem Pair.trans (first : Pair n s t s' t') (second : Pair n s' t' s'' t'') :
    Pair n s t s'' t'' :=
  ⟨first.left.trans second.left, first.right.trans second.right, second.owned, second.same⟩

theorem updates_modify (n : Nat) (s : RelayNode) (f : RelayConnection → RelayConnection) :
    Updates n s (s.modify n f) := by
  refine ⟨rfl, rfl, rfl, rfl, ?_⟩
  intro m hm
  rw [connections_modify, if_neg hm]

/-- A change of the connection that keeps its circuits. -/
theorem pair_modify {f : RelayConnection → RelayConnection} (howned : s.CircuitsOwned)
    (hsame : t.connections n = s.connections n)
    (hf : (f (s.connections n)).circuits = (s.connections n).circuits) :
    Pair n s t (s.modify n f) (t.modify n f) := by
  refine ⟨updates_modify n s f, updates_modify n t f, ?_, ?_⟩
  · intro ref c hc
    rw [circuit?_modify s n ref hf] at hc
    exact howned ref c hc
  · rw [connections_modify, connections_modify, if_pos rfl, if_pos rfl, hsame]

theorem pair_setPhase (phase : ConnectionPhase) (howned : s.CircuitsOwned)
    (hsame : t.connections n = s.connections n) :
    Pair n s t (s.setPhase n phase) (t.setPhase n phase) :=
  pair_modify howned hsame rfl

theorem pair_output (out : RelayOutput) (howned : s.CircuitsOwned)
    (hsame : t.connections n = s.connections n) :
    Pair n s t (s.output n out) (t.output n out) :=
  pair_modify howned hsame rfl

theorem pair_count (f : RelayMetrics → RelayMetrics) (howned : s.CircuitsOwned)
    (hsame : t.connections n = s.connections n) : Pair n s t (s.count f) (t.count f) :=
  ⟨⟨rfl, rfl, rfl, rfl, fun _ _ => rfl⟩, ⟨rfl, rfl, rfl, rfl, fun _ _ => rfl⟩, howned, hsame⟩

/-- A change of a circuit that keeps what it owns. -/
theorem pair_modifyCircuit {ref : CircuitRef} {f : HeldCircuit → HeldCircuit}
    (howned : s.CircuitsOwned) (hsame : t.connections n = s.connections n) (href : ref.conn = n)
    (hf : ∀ c, s.circuit? ref = some c → c.OwnedBy ref → (f c).OwnedBy ref) :
    Pair n s t (s.modifyCircuit ref f) (t.modifyCircuit ref f) := by
  subst href
  refine ⟨updates_modify _ s _, updates_modify _ t _, ?_, ?_⟩
  · intro ref' c hc
    rw [circuit?_modifyCircuit] at hc
    split at hc
    · next heq =>
      subst heq
      cases hold : s.circuit? ref' with
      | none => simp [hold] at hc
      | some old =>
          rw [hold] at hc
          cases hc
          exact hf old hold (howned ref' old hold)
    · exact howned ref' c hc
  · rw [modifyCircuit, modifyCircuit, connections_modify, connections_modify, if_pos rfl,
      if_pos rfl, hsame]

end

/-! ## What the tasks change -/

end RelayNode

section

variable {c : HeldCircuit} {ref : CircuitRef}

/-- A changed link of which the reader stays keeps what its circuit owns. -/
theorem HeldCircuit.OwnedBy.modifyLink (howned : c.OwnedBy ref) (k : Nat)
    {f : NextHopLink → NextHopLink}
    (hf : ∀ link reader, (f link).reader = some reader →
      reader.prevHop = ref.conn ∨ ∃ old, link.reader = some old ∧ reader.prevHop = old.prevHop) :
    (c.modifyLink k f).OwnedBy ref := by
  refine ⟨howned.nextHop, ?_, howned.tasks⟩
  intro link hlink reader hreader
  obtain ⟨i, hi⟩ := List.mem_iff_getElem?.mp hlink
  rw [HeldCircuit.modifyLink, List.getElem?_modify] at hi
  cases hold : c.links[i]? with
  | none => simp [hold] at hi
  | some old =>
      have hmem := List.mem_of_getElem? hold
      rw [hold] at hi
      cases hi
      split at hreader
      · rcases hf old reader hreader with hprev | ⟨first, hfirst, hprev⟩
        · exact hprev
        · exact hprev.trans (howned.readers old hmem first hfirst)
      · exact howned.readers old hmem reader hreader

/-- A reader that changes its phase still writes where it wrote. -/
theorem HeldCircuit.OwnedBy.setReader (howned : c.OwnedBy ref) (k : Nat) (phase : BackwardPhase) :
    (c.setReader k phase).OwnedBy ref := by
  apply howned.modifyLink
  intro link reader hreader
  cases hold : link.reader with
  | none => simp [hold] at hreader
  | some old =>
      simp only [hold, Option.map_some, Option.some.injEq] at hreader
      exact Or.inr ⟨old, rfl, by rw [← hreader]⟩

/-- A changed task that writes where it wrote keeps what its circuit owns. -/
theorem HeldCircuit.OwnedBy.modifyTask (howned : c.OwnedBy ref) (i : Nat)
    {f : ExitTask → ExitTask} (hf : ∀ task, (f task).prevHop = task.prevHop) :
    (c.modifyTask i f).OwnedBy ref := by
  refine ⟨howned.nextHop, howned.readers, ?_⟩
  intro task htask
  obtain ⟨j, hj⟩ := List.mem_iff_getElem?.mp htask
  rw [HeldCircuit.modifyTask, List.getElem?_modify] at hj
  cases hold : c.tasks[j]? with
  | none => simp [hold] at hj
  | some old =>
      have hprev := howned.tasks old (List.mem_of_getElem? hold)
      rw [hold] at hj
      cases hj
      split
      · rw [hf, hprev]
      · exact hprev

/-- Queued data changes no task's writer. -/
theorem ExitTask.queueLast_prevHop {streamId : StreamId} {data : Bytes} {tasks : List ExitTask}
    {n : Nat} (h : ∀ task ∈ tasks, task.prevHop = n) :
    ∀ task ∈ ExitTask.queueLast streamId data tasks, task.prevHop = n := by
  induction tasks with
  | nil => simp [queueLast]
  | cons first rest ih =>
      have hfirst := h first List.mem_cons_self
      have hrest := ih fun task htask => h task (List.mem_cons_of_mem first htask)
      rw [queueLast]
      split
      · intro task htask
        rcases List.mem_cons.mp htask with rfl | hmem
        · exact hfirst
        · exact h task (List.mem_cons_of_mem first hmem)
      · intro task htask
        rcases List.mem_cons.mp htask with rfl | hmem
        · exact hfirst
        · exact hrest task hmem

/-- A new handler whose next hop belongs to the circuit. -/
theorem HeldCircuit.OwnedBy.setHandler (howned : c.OwnedBy ref) {handler : CircuitHandler}
    (hnext : ∀ hop, handler.nextHop = some hop → hop.OwnedBy ref) :
    (c.setHandler handler).OwnedBy ref :=
  ⟨hnext, howned.readers, howned.tasks⟩

/-- The shared crypto state is not a next hop. -/
theorem HeldCircuit.OwnedBy.setShared (howned : c.OwnedBy ref) (state : ExitCryptoState) :
    (c.setShared state).OwnedBy ref := by
  refine ⟨?_, howned.readers, howned.tasks⟩
  cases hhandler : c.handler with
  | entry h => simpa [HeldCircuit.setShared, hhandler, CircuitHandler.setShared] using
      hhandler ▸ howned.nextHop
  | middle h => simpa [HeldCircuit.setShared, hhandler, CircuitHandler.setShared] using
      hhandler ▸ howned.nextHop
  | exit h => simp [HeldCircuit.setShared, hhandler, CircuitHandler.setShared,
      CircuitHandler.nextHop]

end

namespace RelayNode

section

variable {n : Nat} {ref : CircuitRef} {s t : RelayNode}

/-- An effect that stays within changes the connection of the calling loop. -/
theorem pair_deliver {effect : RelayEffect} (href : ref.conn = n) (hwithin : effect.Within n ref)
    (howned : s.CircuitsOwned) (hsame : t.connections n = s.connections n) :
    Pair n s t (deliver n ref s effect) (deliver n ref t effect) := by
  have hrefl : Pair n s t s t := ⟨.refl n s, .refl n t, howned, hsame⟩
  cases effect with
  | dial addr fingerprint conn =>
      obtain ⟨k, rfl⟩ := hwithin
      apply pair_modifyCircuit howned hsame href
      intro c hc hown
      refine ⟨hown.nextHop, ?_, hown.tasks⟩
      intro link hlink reader hreader
      rcases List.mem_append.mp hlink with hold | hnew
      · exact hown.readers link hold reader hreader
      · rw [List.mem_singleton.mp hnew] at hreader
        cases hreader
  | send conn msg =>
      rcases hwithin with rfl | ⟨k, rfl⟩
      · exact pair_output _ howned hsame
      · apply pair_modifyCircuit howned hsame href
        intro c hc hown
        apply hown.modifyLink
        exact fun link reader hreader => Or.inr ⟨reader, hreader, rfl⟩
  | openStream streamId destination =>
      have hopened := pair_modifyCircuit (t := t)
        (f := fun c => { c with tasks := c.tasks ++ [⟨streamId, n, .idle, 0, [], []⟩] })
        howned hsame href (by
          intro c hc hown
          refine ⟨hown.nextHop, hown.readers, ?_⟩
          intro task htask
          rcases List.mem_append.mp htask with hold | hnew
          · exact hown.tasks task hold
          · rw [List.mem_singleton.mp hnew, href])
      exact hopened.trans (pair_count _ hopened.owned hopened.same)
  | queue streamId data =>
      have hqueued := pair_modifyCircuit (t := t)
        (f := fun c => { c with tasks := ExitTask.queueLast streamId data c.tasks })
        howned hsame href (by
          intro c hc hown
          exact ⟨hown.nextHop, hown.readers, ExitTask.queueLast_prevHop hown.tasks⟩)
      exact hqueued.trans
        (pair_count (fun m => m.addForwarded data.length) hqueued.owned hqueued.same)
  | recovered | sealed | attempt => exact hrefl

/-- The effects of a call, one after the other. -/
theorem pair_effects {effects : List RelayEffect} (href : ref.conn = n)
    (hwithin : ∀ effect ∈ effects, effect.Within n ref) (howned : s.CircuitsOwned)
    (hsame : t.connections n = s.connections n) :
    Pair n s t (effects.foldl (deliver n ref) s) (effects.foldl (deliver n ref) t) := by
  induction effects generalizing s t with
  | nil => exact ⟨.refl n s, .refl n t, howned, hsame⟩
  | cons effect rest ih =>
      have hfirst := pair_deliver href (hwithin effect List.mem_cons_self) howned hsame
      exact hfirst.trans (ih (fun e he => hwithin e (List.mem_cons_of_mem effect he)) hfirst.owned
        hfirst.same)

/-- Circuits of the same connection are the same. -/
theorem circuit?_eq_of_same (href : ref.conn = n) (hsame : t.connections n = s.connections n) :
    t.circuit? ref = s.circuit? ref := by
  rw [circuit?, circuit?, href, hsame]

/-- Starting a reader, when the registry finds a circuit of this connection. -/
theorem pair_spawnReader (circuitId : CircuitId) (howned : s.CircuitsOwned)
    (hsame : t.connections n = s.connections n)
    (hfound : t.registry.lookup circuitId = s.registry.lookup circuitId)
    (hown : ∀ ref, s.registry.lookup circuitId = some ref → ref.conn = n) :
    Pair n s t (s.spawnReader n circuitId) (t.spawnReader n circuitId) := by
  have hrefl : Pair n s t s t := ⟨.refl n s, .refl n t, howned, hsame⟩
  unfold spawnReader
  rw [hfound]
  cases hlookup : s.registry.lookup circuitId with
  | none => exact hrefl
  | some ref =>
      have href := hown ref hlookup
      simp only [circuit?_eq_of_same href hsame]
      cases hcircuit : s.circuit? ref with
      | none => exact hrefl
      | some c =>
          have hc := howned ref c hcircuit
          rcases htake : c.handler.takeReader with ⟨handler, read⟩
          have hread := c.handler.takeReader_ownedBy hc.nextHop htake
          match read with
          | none => simpa [htake] using hrefl
          | some (.prev m) => simpa [htake] using hrefl
          | some (.next owner k) =>
              obtain ⟨k', hk⟩ := hread.2 _ rfl
              cases hk
              simp only [htake]
              have hhandler := pair_modifyCircuit (t := t) (f := fun c => c.setHandler handler)
                howned hsame href fun c hc hown => hown.setHandler hread.1
              refine hhandler.trans (pair_modifyCircuit hhandler.owned hhandler.same href ?_)
              intro c hc hown
              apply hown.modifyLink
              intro link reader hreader
              cases hreader
              exact Or.inl href.symm

/-- The end of a round, when the registry finds a circuit of this connection. -/
theorem pair_conclude (command : MessageCommand) (circuitId : CircuitId)
    (howned : s.CircuitsOwned) (hsame : t.connections n = s.connections n)
    (hfound : t.registry.lookup circuitId = s.registry.lookup circuitId)
    (hown : ∀ ref, s.registry.lookup circuitId = some ref → ref.conn = n) :
    Pair n s t (s.conclude n command circuitId) (t.conclude n command circuitId) := by
  have hphase := pair_setPhase (t := t) .reading howned hsame
  have hspawn := pair_spawnReader circuitId hphase.owned hphase.same hfound hown
  cases command with
  | destroy => exact hphase.trans (pair_count _ hphase.owned hphase.same)
  | extend | extended => exact hphase.trans hspawn
  | _ => exact hphase

end

end RelayNode

end NoPanic
