/-
# Tearing a circuit down

A client ends a circuit with DESTROY, or by closing its connection to the entry relay.
DESTROY closes the entry's handler. That drops the write half of the connection to the
next hop, but the background reader keeps the read half and waits on, so the
connection stays open and the next hop sees nothing. A loop that ends closes no handler.
And no handler ever writes DESTROY to its next hop: the readers pass it on in the other
direction only.

The relays of a circuit are therefore a chain of whole relays here, each with all its
other circuits, joined by what one writes and the next one reads.
-/

import NoPanic.Relay.NextHopCells
import NoPanic.Relay.DigestMismatch

namespace NoPanic

open NoPanic.Math

/-! ## A relay at rest -/

namespace RelayNode

/-- No task of the relay has a step of its own left: the loops and the readers wait for
cells, and the tasks of the open streams for data of either side. -/
structure Idle (node : RelayNode) : Prop where
  loops : ∀ n, (node.connections n).phase = .reading ∨ (node.connections n).phase = .ended
  lock : node.lock = none
  readers : ∀ ref c k reader, node.circuit? ref = some c → c.reader? k = some reader →
    reader.phase = .reading ∨ reader.phase = .stopped
  tasks : ∀ ref c (i : Nat) (task : ExitTask), node.circuit? ref = some c →
    c.tasks[i]? = some task → task.phase = .finished ∨
      task.phase = .idle ∧ task.queued = [] ∧ c.handler.streams.lookup task.streamId ≠ none

/-- A loop that waits or ends leaves an idle relay idle. -/
theorem Idle.setPhase {node : RelayNode} (h : node.Idle) (n : Nat) {phase : ConnectionPhase}
    (hphase : phase = .reading ∨ phase = .ended) : (node.setPhase n phase).Idle := by
  refine ⟨?_, h.lock, ?_, ?_⟩
  · intro m
    by_cases hm : m = n
    · rwa [hm, phase_setPhase]
    · rw [RelayNode.setPhase, connections_modify, if_neg hm]
      exact h.loops m
  · intro ref c k reader hcircuit
    rw [circuit?_setPhase] at hcircuit
    exact h.readers ref c k reader hcircuit
  · intro ref c i task hcircuit
    rw [circuit?_setPhase] at hcircuit
    exact h.tasks ref c i task hcircuit

/-- Closing a circuit without streams leaves an idle relay idle. -/
theorem Idle.close {node : RelayNode} (h : node.Idle) {ref : CircuitRef} {c : HeldCircuit}
    (hcircuit : node.circuit? ref = some c) (hstreams : c.handler.streams = ∅) :
    (node.modifyCircuit ref fun c' => c'.setHandler c.handler.close).Idle := by
  have hlater : ∀ ref' c', (node.modifyCircuit ref fun c' =>
      c'.setHandler c.handler.close).circuit? ref' = some c' →
      node.circuit? ref' = some c' ∨ ref' = ref ∧ c' = c.setHandler c.handler.close := by
    intro ref' c' hc'
    rw [circuit?_modifyCircuit] at hc'
    split at hc'
    · next heq =>
      rw [hcircuit] at hc'
      exact Or.inr ⟨heq, (Option.some.inj hc').symm⟩
    · exact Or.inl hc'
  refine ⟨?_, h.lock, ?_, ?_⟩
  · intro n
    rw [phase_modifyCircuit]
    exact h.loops n
  · intro ref' c' k reader hc' hreader
    rcases hlater ref' c' hc' with hold | ⟨rfl, rfl⟩
    · exact h.readers ref' c' k reader hold hreader
    · exact h.readers ref' c k reader hcircuit hreader
  · intro ref' c' i task hc' htask
    rcases hlater ref' c' hc' with hold | ⟨rfl, rfl⟩
    · exact h.tasks ref' c' i task hold htask
    · left
      rcases h.tasks ref' c i task hcircuit htask with hfinished | ⟨-, -, hheld⟩
      · exact hfinished
      · rw [hstreams] at hheld
        exact absurd rfl hheld

end RelayNode

/-- The connection and the cell that a loop reads. -/
def RelayNodeEvent.input? : RelayNodeEvent → Option (Nat × Message)
  | .arrives n msg _ | .creates n msg _ => some (n, msg)
  | _ => none

/-- What the reader of a next hop does with what that hop has written. -/
def RelayNodeEvent.Returns (e : RelayNodeEvent) (ref : CircuitRef) (k : Nat) : RelayOutput → Prop
  | .cell msg => e = .receives ref k msg
  | .shutdown => e = .loses ref k

/-! ## A chain of relays -/

/-- A relay of a circuit: where it holds the circuit, which of the circuit's connections
leads to the next relay, how many cells its loop has taken from the previous hop, and how
many of its outputs the previous hop has read. -/
structure ChainHop where
  node : RelayNode
  ref : CircuitRef
  link : Nat
  taken : Nat
  returned : Nat

namespace ChainHop

/-- The circuit. -/
def held? (h : ChainHop) : Option HeldCircuit := h.node.circuit? h.ref

/-- What the relay has written to its previous hop. -/
def answers (h : ChainHop) : List RelayOutput := (h.node.connections h.ref.conn).written

/-- The phase of the loop that reads from the previous hop. -/
def phase (h : ChainHop) : ConnectionPhase := (h.node.connections h.ref.conn).phase

/-- The reader waits for the next hop. -/
def Reads (h : ChainHop) : Prop :=
  ∃ c reader, h.held? = some c ∧ c.reader? h.link = some reader ∧ reader.phase = .reading

/-- One half of the connection to the next hop is still held, so it is open: the handler
has the write half, or the reader runs. -/
def HoldsNext (h : ChainHop) : Prop :=
  ∃ c, h.held? = some c ∧
    ((∃ hop, c.handler.nextHop = some hop ∧ hop.write = .next h.ref h.link) ∨
      ∃ reader, c.reader? h.link = some reader ∧ reader.phase ≠ .stopped)

/-- One half of the connection to the previous hop is still held: the loop reads from it,
or a reader or a stream may write to it. -/
def HoldsPrev (h : ChainHop) : Prop :=
  h.phase ≠ .ended ∨
    (∃ ref c k reader, h.node.circuit? ref = some c ∧ c.reader? k = some reader ∧
      reader.prevHop = h.ref.conn ∧ reader.phase ≠ .stopped) ∨
    ∃ ref c, ∃ task ∈ c.tasks, h.node.circuit? ref = some c ∧ task.prevHop = h.ref.conn ∧
      task.phase ≠ .finished

end ChainHop

/-- A circuit with its client: the cells the client has written to the entry relay, and
whether it has closed that connection. -/
structure RelayChain where
  circuitId : CircuitId
  length : Nat
  hop : Nat → ChainHop
  sent : List Message
  closed : Bool

/-- What happens on a chain: the client acts, a relay takes the next cell of its previous
hop or the next output of its next hop, or it does anything else. -/
inductive ChainEvent
  | sends (msg : Message)
  | closes
  | reads
  | takes (i : Nat) (e : RelayNodeEvent)
  | returns (i : Nat) (e : RelayNodeEvent)
  | works (i : Nat) (e : RelayNodeEvent)

namespace RelayChain

/-- The cells on their way to a relay, those it has taken already included. -/
def incoming (chain : RelayChain) : Nat → List Message
  | 0 => chain.sent
  | i + 1 => (chain.hop i).node.linkCells (chain.hop i).ref (chain.hop i).link

/-- Change a relay. -/
def update (chain : RelayChain) (i : Nat) (h : ChainHop) : RelayChain :=
  { chain with hop := Function.update chain.hop i h }

theorem hop_update (chain : RelayChain) (i : Nat) (h : ChainHop) (j : Nat) :
    (chain.update i h).hop j = if j = i then h else chain.hop j :=
  Function.update_apply ..

/-- The kind of a relay. -/
def kind (chain : RelayChain) (i : Nat) : NodeType :=
  if i = 0 then .entry else if i + 1 = chain.length then .exit else .middle

section

variable [Primitives] [AddrText]

/-- One step on a chain. Other connections may bring any cells, and every connection may
fail at any time. -/
inductive Step : RelayChain → ChainEvent → RelayChain → Prop
  | sends {chain : RelayChain} (msg : Message) (hopen : chain.closed = false) :
      Step chain (.sends msg) { chain with sent := chain.sent ++ [msg] }
  | closes {chain : RelayChain} : Step chain .closes { chain with closed := true }
  | /-- The client reads what the entry relay has written. -/
    reads {chain : RelayChain}
      (hout : (chain.hop 0).returned < (chain.hop 0).answers.length) :
      Step chain .reads
        (chain.update 0 { chain.hop 0 with returned := (chain.hop 0).returned + 1 })
  | takes {chain : RelayChain} {i : Nat} {msg : Message} {e : RelayNodeEvent} {node : RelayNode}
      (hi : i < chain.length) (hmsg : (chain.incoming i)[(chain.hop i).taken]? = some msg)
      (hinput : e.input? = some ((chain.hop i).ref.conn, msg))
      (hstep : (chain.hop i).node.Step e node) :
      Step chain (.takes i e)
        (chain.update i { chain.hop i with node, taken := (chain.hop i).taken + 1 })
  | returns {chain : RelayChain} {i : Nat} {out : RelayOutput} {e : RelayNodeEvent}
      {node : RelayNode} (hi : i + 1 < chain.length)
      (hout : (chain.hop (i + 1)).answers[(chain.hop (i + 1)).returned]? = some out)
      (hreturns : e.Returns (chain.hop i).ref (chain.hop i).link out)
      (hstep : (chain.hop i).node.Step e node) :
      Step chain (.returns i e) ((chain.update i { chain.hop i with node }).update (i + 1)
        { chain.hop (i + 1) with returned := (chain.hop (i + 1)).returned + 1 })
  | works {chain : RelayChain} {i : Nat} {e : RelayNodeEvent} {node : RelayNode}
      (hi : i < chain.length) (hinput : ∀ msg, e.input? ≠ some ((chain.hop i).ref.conn, msg))
      (hreturns : ∀ msg, e ≠ .receives (chain.hop i).ref (chain.hop i).link msg)
      (hstep : (chain.hop i).node.Step e node) :
      Step chain (.works i e) (chain.update i { chain.hop i with node })

end

/-- No message is in flight and no task of a relay has a step left. A connection of which
a side holds neither half any more is closed, and the other side has seen it. -/
structure Quiescent (chain : RelayChain) : Prop where
  idle : ∀ i < chain.length, (chain.hop i).node.Idle
  taken : ∀ i < chain.length, (chain.hop i).phase = .reading →
    (chain.hop i).taken = (chain.incoming i).length
  returned : ∀ i, i + 1 < chain.length → (chain.hop i).Reads →
    (chain.hop (i + 1)).returned = (chain.hop (i + 1)).answers.length
  client : chain.closed = false → (chain.hop 0).returned = (chain.hop 0).answers.length
  closed : chain.closed = true → (chain.hop 0).phase = .ended
  dropped : ∀ i, i + 1 < chain.length → ¬ (chain.hop i).HoldsNext →
    (chain.hop (i + 1)).phase = .ended
  lost : ∀ i, i + 1 < chain.length → ¬ (chain.hop (i + 1)).HoldsPrev → ¬ (chain.hop i).Reads

/-- An established circuit, between two cells: every relay holds it active, with its keys
and under its id, has a next hop unless it is the last, and waits for cells. -/
structure Established (chain : RelayChain) : Prop where
  opened : chain.closed = false
  quiescent : chain.Quiescent
  reading : ∀ i < chain.length, (chain.hop i).phase = .reading
  registered : ∀ i < chain.length,
    (chain.hop i).node.registry.lookup chain.circuitId = some (chain.hop i).ref
  held : ∀ i < chain.length, ∃ c, (chain.hop i).held? = some c ∧
    c.handler.nodeType = chain.kind i ∧ c.handler.circuitId = chain.circuitId ∧
    c.handler.state = .active ∧ c.handler.sessionKey ≠ none ∧ c.handler.cipherPair ≠ none
  linked : ∀ i, i + 1 < chain.length → ∃ c, (chain.hop i).held? = some c ∧
    c.handler.nextHop = some ⟨.next (chain.hop i).ref (chain.hop i).link, none⟩ ∧
    c.reader? (chain.hop i).link =
      some ⟨chain.kind i, chain.circuitId, (chain.hop i).ref.conn, .reading⟩

/-- The entry relay has processed a DESTROY. -/
def Destroyed (chain : RelayChain) : Prop :=
  (chain.hop 0).node.state? (chain.hop 0).ref = some .closed

/-- The client has ended the circuit. -/
def Ended (chain : RelayChain) : Prop := chain.Destroyed ∨ chain.closed = true

/-- Every relay has closed the circuit and holds nothing of it any more. -/
def TornDown (chain : RelayChain) : Prop :=
  ∀ i < chain.length, ∀ c, (chain.hop i).held? = some c → c.handler.Released

section

variable [Primitives] [AddrText]

/-- The runs of an established circuit. -/
def system : TransitionSystem RelayChain ChainEvent where
  init := Established
  step := Step

/-- In every later state that is at rest after the circuit has ended, it is torn down. -/
def TearsDown (chain : RelayChain) (ended : RelayChain → Prop) : Prop :=
  ∀ es later, system.Run chain es later → ended later → later.Quiescent → later.TornDown

/-- No other connection brings a relay a DESTROY that finds the circuit. -/
def Undisturbed (chain : RelayChain) : ChainEvent → Prop
  | .works i (.arrives _ msg _) => msg.command = .destroy →
      (chain.hop i).node.registry.lookup msg.circuitId ≠ some (chain.hop i).ref
  | _ => True

end

/-! ## The relays behind the entry -/

/-- What stays true of the relays behind the entry: the circuit is active, and no DESTROY
is on its way to it. -/
structure Up (chain : RelayChain) : Prop where
  active : ∀ i, 0 < i → i < chain.length →
    (chain.hop i).node.AnswersNoDestroy ∧
      (chain.hop i).node.state? (chain.hop i).ref = some .active
  coming : ∀ i, 0 < i → i < chain.length →
    ∀ msg ∈ (chain.incoming i).drop (chain.hop i).taken, msg.command ≠ .destroy

/-- A relay has moved on, without a DESTROY to its next hop. -/
structure Advances (before after : ChainHop) : Prop where
  ref : after.ref = before.ref
  link : after.link = before.link
  taken : before.taken ≤ after.taken
  spares : RelayNode.SparesNext before.node after.node

theorem Advances.refl (h : ChainHop) : Advances h h := ⟨rfl, rfl, le_refl _, .refl _⟩

section

variable {chain chain' : RelayChain}

/-- The relays behind the entry of an established circuit are up. -/
theorem Established.up (h : chain.Established) : chain.Up := by
  refine ⟨?_, ?_⟩
  · intro i hpos hi
    obtain ⟨c, hheld, -, -, hstate, -⟩ := h.held i hi
    refine ⟨?_, ?_⟩
    · intro n command circuitId response hreplying
      rcases (h.quiescent.idle i hi).loops n with hphase | hphase
      · rw [hphase] at hreplying
        cases hreplying
      · rw [hphase] at hreplying
        cases hreplying
    · rw [RelayNode.state?, show (chain.hop i).node.circuit? (chain.hop i).ref = some c from hheld]
      exact congrArg some hstate
  · intro i hpos hi msg hmem
    rw [h.quiescent.taken i hi (h.reading i hi), List.drop_length] at hmem
    cases hmem

/-- A circuit with a relay behind its entry that is up is not torn down. -/
theorem Up.not_tornDown (h : chain.Up) (hlong : 2 ≤ chain.length) : ¬ chain.TornDown := by
  intro htorn
  have hactive := (h.active 1 Nat.one_pos hlong).2
  obtain ⟨c, hc, hstate⟩ := Option.map_eq_some_iff.mp hactive
  have hclosed := (htorn 1 hlong c hc).state
  rw [show c.handler.state = .active from hstate] at hclosed
  cases hclosed

variable [Primitives] [AddrText]

/-- A step of its node moves a relay on. -/
theorem advances_node {h : ChainHop} {e : RelayNodeEvent} {node : RelayNode}
    (hstep : h.node.Step e node) : Advances h { h with node } :=
  ⟨rfl, rfl, le_refl _, RelayNode.sparesNext_step hstep⟩

/-- The relays of a chain move on. -/
theorem advances_step {e : ChainEvent} (hstep : Step chain e chain') (i : Nat) :
    Advances (chain.hop i) (chain'.hop i) := by
  cases hstep with
  | sends msg hopen => exact .refl _
  | closes => exact .refl _
  | reads hout =>
      rw [hop_update]
      split
      · next heq => exact heq ▸ ⟨rfl, rfl, le_refl _, .refl _⟩
      · exact .refl _
  | @takes j msg e node hj hmsg hinput hnode =>
      rw [hop_update]
      split
      · next heq =>
        subst heq
        exact ⟨rfl, rfl, Nat.le_succ _, RelayNode.sparesNext_step hnode⟩
      · exact .refl _
  | @returns j out e node hj hout hreturns hnode =>
      rw [hop_update, hop_update]
      split
      · next heq => exact heq ▸ ⟨rfl, rfl, le_refl _, .refl _⟩
      · split
        · next heq =>
          subst heq
          exact advances_node hnode
        · exact .refl _
  | @works j e node hj hinput hreturns hnode =>
      rw [hop_update]
      split
      · next heq =>
        subst heq
        exact advances_node hnode
      · exact .refl _

/-- No step changes the length of a chain. -/
theorem length_step {e : ChainEvent} (hstep : Step chain e chain') :
    chain'.length = chain.length := by
  cases hstep <;> rfl

/-- The relays behind the entry stay up. -/
theorem Up.step {e : ChainEvent} (h : chain.Up) (hundisturbed : chain.Undisturbed e)
    (hstep : Step chain e chain') : chain'.Up := by
  have hadvances := advances_step hstep
  have hlength := length_step hstep
  refine ⟨?_, ?_⟩
  · intro i hpos hi
    rw [hlength] at hi
    have hup := h.active i hpos hi
    cases hstep with
    | sends msg hopen => exact hup
    | closes => exact hup
    | reads hout =>
        rw [hop_update, if_neg (Nat.pos_iff_ne_zero.mp hpos)]
        exact hup
    | @takes j msg e node hj hmsg hinput hnode =>
        rw [hop_update]
        split
        · next heq =>
          subst heq
          apply RelayNode.active_step hnode hup.1 hup.2
          -- the cell is one that was on its way
          rintro n msg' io rfl hdestroy -
          cases hinput
          refine h.coming i hpos hi msg ?_ hdestroy
          rw [List.mem_iff_getElem?]
          exact ⟨0, by rw [List.getElem?_drop]; exact hmsg⟩
        · exact hup
    | @returns j out e node hj hout hreturns hnode =>
        have hnot : ∀ n msg io, e ≠ .arrives n msg io := by
          rintro n msg io rfl
          cases out <;> cases hreturns
        have hmoved : i = j → node.AnswersNoDestroy ∧
            node.state? (chain.hop j).ref = some .active := by
          rintro rfl
          exact RelayNode.active_step hnode hup.1 hup.2
            fun n msg io heq => absurd heq (hnot n msg io)
        rw [hop_update, hop_update]
        split
        · next heq => exact heq ▸ hup
        · split
          · next heq => exact heq ▸ hmoved heq
          · exact hup
    | @works j e node hj hinput hreturns hnode =>
        rw [hop_update]
        split
        · next heq =>
          subst heq
          apply RelayNode.active_step hnode hup.1 hup.2
          rintro n msg io rfl hdestroy
          exact hundisturbed hdestroy
        · exact hup
  · intro i hpos hi msg hmem
    obtain ⟨j, rfl⟩ : ∃ j, i = j + 1 := Nat.exists_eq_succ_of_ne_zero (Nat.pos_iff_ne_zero.mp hpos)
    rw [hlength] at hi
    obtain ⟨cells, hcells, hspares⟩ :=
      (hadvances j).spares (chain.hop j).ref (chain.hop j).link
    rw [incoming, (hadvances j).ref, (hadvances j).link, hcells] at hmem
    have hmem' := (List.drop_sublist_drop_left _ (hadvances (j + 1)).taken).subset hmem
    rw [List.drop_append] at hmem'
    rcases List.mem_append.mp hmem' with hold | hnew
    · exact h.coming (j + 1) hpos hi msg hold
    · exact hspares msg (List.mem_of_mem_drop hnew)

/-- In every run of an established circuit in which no other connection destroys it, the
relays behind the entry hold it active. -/
theorem up_of_run (h : chain.Established) {es : List ChainEvent} {later : RelayChain}
    (hrun : (system.restrict Undisturbed).Run chain es later) :
    later.Up ∧ later.length = chain.length := by
  apply hrun.invariant (fun later => later.Up ∧ later.length = chain.length) ⟨h.up, rfl⟩
  rintro s e t ⟨hup, hlength⟩ ⟨hundisturbed, hstep⟩
  exact ⟨hup.step hundisturbed hstep, (length_step hstep).trans hlength⟩

end

/-! ## The client ends the circuit -/

section

variable {chain later : RelayChain}

/-- A chain at rest stays at rest when its entry relay comes to rest again, with its reader
still waiting and nothing new for anybody. -/
theorem Quiescent.entry (h : chain.Quiescent) (hlength : later.length = chain.length)
    (hrest : ∀ i, later.hop (i + 1) = chain.hop (i + 1)) (hreads : (chain.hop 0).Reads)
    (hreads' : (later.hop 0).Reads) (hidle : (later.hop 0).node.Idle)
    (hcells : later.incoming 1 = chain.incoming 1)
    (htaken : (later.hop 0).phase = .reading → (later.hop 0).taken = later.sent.length)
    (hclient : later.closed = false → (later.hop 0).returned = (later.hop 0).answers.length)
    (hclosed : later.closed = true → (later.hop 0).phase = .ended) : later.Quiescent := by
  have hincoming : ∀ i, later.incoming (i + 1) = chain.incoming (i + 1) := by
    intro i
    cases i with
    | zero => exact hcells
    | succ i => rw [incoming, hrest, incoming]
  refine ⟨?_, ?_, ?_, hclient, hclosed, ?_, ?_⟩
  · intro i hi
    cases i with
    | zero => exact hidle
    | succ i =>
        rw [hrest]
        exact h.idle (i + 1) (hlength ▸ hi)
  · intro i hi hphase
    cases i with
    | zero => exact htaken hphase
    | succ i =>
        rw [hrest] at hphase
        rw [hrest, hincoming]
        exact h.taken (i + 1) (hlength ▸ hi) hphase
  · intro i hi hreading
    rw [hrest]
    cases i with
    | zero => exact h.returned 0 (hlength ▸ hi) hreads
    | succ i =>
        rw [hrest] at hreading
        exact h.returned (i + 1) (hlength ▸ hi) hreading
  · intro i hi hnot
    rw [hrest]
    cases i with
    | zero =>
        obtain ⟨c, reader, hheld, hreader, hphase⟩ := hreads'
        exact absurd ⟨c, hheld, Or.inr ⟨reader, hreader, by rw [hphase]; simp⟩⟩ hnot
    | succ i =>
        rw [hrest] at hnot
        exact h.dropped (i + 1) (hlength ▸ hi) hnot
  · intro i hi hnot
    rw [hrest] at hnot
    cases i with
    | zero => exact absurd hreads (h.lost 0 (hlength ▸ hi) hnot)
    | succ i =>
        rw [hrest]
        exact h.lost (i + 1) (hlength ▸ hi) hnot

/-- The reader of the entry relay waits. -/
theorem Established.reads (h : chain.Established) (hlong : 2 ≤ chain.length) :
    (chain.hop 0).Reads := by
  obtain ⟨c, hheld, -, hreader⟩ := h.linked 0 hlong
  exact ⟨c, _, hheld, hreader, rfl⟩

variable [Primitives] [AddrText]

/-- The client closes its connection, and the loop of the entry relay ends. -/
theorem Established.run_closes (h : chain.Established) (hlong : 2 ≤ chain.length) :
    ∃ es later, (system.restrict Undisturbed).Run chain es later ∧
      later.closed = true ∧ later.Quiescent := by
  let gone : RelayChain := { chain with closed := true }
  let node := (chain.hop 0).node.setPhase (chain.hop 0).ref.conn .ended
  let entry : ChainHop := { chain.hop 0 with node }
  have hcloses : (system.restrict Undisturbed).step chain .closes gone := ⟨trivial, .closes⟩
  have hphase : ((chain.hop 0).node.connections (chain.hop 0).ref.conn).phase = .reading :=
    h.reading 0 (by omega)
  have hworks : (system.restrict Undisturbed).step gone
      (.works 0 (.hangsUp (chain.hop 0).ref.conn)) (gone.update 0 entry) :=
    ⟨trivial, .works (show 0 < chain.length by omega) (by simp [RelayNodeEvent.input?]) (by simp)
      (.hangsUp hphase)⟩
  have hnil : (system.restrict Undisturbed).Run chain [] chain := .nil _
  have hfirst : (gone.update 0 entry).hop 0 = entry := by rw [hop_update, if_pos rfl]
  have hended : entry.phase = .ended := RelayNode.phase_setPhase ..
  obtain ⟨c, reader, hheld, hreader, hwaits⟩ := h.reads hlong
  refine ⟨_, _, (hnil.snoc hcloses).snoc hworks, rfl, h.quiescent.entry rfl ?_ (h.reads hlong)
    ?_ ?_ ?_ ?_ ?_ ?_⟩
  · intro i
    rw [hop_update, if_neg (Nat.succ_ne_zero i)]
  · rw [hfirst]
    exact ⟨c, reader, (RelayNode.circuit?_setPhase ..).trans hheld, hreader, hwaits⟩
  · rw [hfirst]
    exact (h.quiescent.idle 0 (by omega)).setPhase _ (Or.inr rfl)
  · rw [incoming, hfirst, RelayNode.linkCells, RelayNode.circuit?_setPhase]
    rfl
  · intro hreading
    rw [hfirst, hended] at hreading
    cases hreading
  · intro hopen
    cases hopen
  · intro _
    rw [hfirst, hended]

/-- The client sends DESTROY, and the entry relay closes its handler. -/
theorem Established.run_destroy (h : chain.Established) (hlong : 2 ≤ chain.length) :
    ∃ es later, (system.restrict Undisturbed).Run chain es later ∧
      later.Destroyed ∧ later.Quiescent := by
  obtain ⟨c, hheld, hkind, -⟩ := h.held 0 (by omega)
  have hcircuit : (chain.hop 0).node.circuit? (chain.hop 0).ref = some c := hheld
  let destroy := Message.destroy chain.circuitId
  let io : RelayIo := { RelayIo.offline (FixedBytes.ofNat 32 0) with destinationOpen := c.accepts }
  let told : RelayChain := { chain with sent := chain.sent ++ [destroy] }
  let closed := (chain.hop 0).node.modifyCircuit (chain.hop 0).ref fun c' =>
    c'.setHandler c.handler.close
  let node := (closed.setPhase (chain.hop 0).ref.conn .reading).count RelayMetrics.addDestroyed
  let entry : ChainHop := { chain.hop 0 with node, taken := (chain.hop 0).taken + 1 }
  have hsends : (system.restrict Undisturbed).step chain (.sends destroy) told :=
    ⟨trivial, .sends destroy h.opened⟩
  have hlookup := h.registered 0 (by omega)
  have hphase : ((chain.hop 0).node.connections (chain.hop 0).ref.conn).phase = .reading :=
    h.reading 0 (by omega)
  have htaken := h.quiescent.taken 0 (by omega) hphase
  have hnode : (chain.hop 0).node.Step (.arrives (chain.hop 0).ref.conn destroy io) node := by
    rw [show node = (chain.hop 0).node.dispatch (chain.hop 0).ref.conn destroy io from
      (RelayNode.dispatch_destroy rfl hlookup hcircuit).symm]
    refine .arrives _ _ hphase (h.quiescent.idle 0 (by omega)).lock
      (by simp [destroy, Message.destroy, Message.circuit, Message.new]) ?_
    intro ref c' hfound hc'
    rw [show destroy.circuitId = chain.circuitId from rfl, hlookup] at hfound
    cases hfound
    rw [hcircuit] at hc'
    cases hc'
    refine ⟨?_, fun _ => rfl⟩
    intro addr fingerprint conn hconnect
    cases hconnect
  have htakes : (system.restrict Undisturbed).step told
      (.takes 0 (.arrives (chain.hop 0).ref.conn destroy io)) (told.update 0 entry) := by
    refine ⟨trivial, .takes (show 0 < chain.length by omega) ?_ rfl hnode⟩
    show (chain.sent ++ [destroy])[(chain.hop 0).taken]? = some destroy
    rw [htaken]
    exact List.getElem?_concat_length
  have hnil : (system.restrict Undisturbed).Run chain [] chain := .nil _
  have hfirst : (told.update 0 entry).hop 0 = entry := by rw [hop_update, if_pos rfl]
  have hlater : node.circuit? (chain.hop 0).ref = some (c.setHandler c.handler.close) := by
    rw [RelayNode.circuit?_count, RelayNode.circuit?_setPhase, RelayNode.circuit?_modifyCircuit,
      if_pos rfl, hcircuit]
    rfl
  obtain ⟨c', reader, hheld', hreader, hwaits⟩ := h.reads hlong
  rw [hheld] at hheld'
  cases hheld'
  refine ⟨_, _, (hnil.snoc hsends).snoc htakes, ?_, h.quiescent.entry rfl ?_ (h.reads hlong)
    ?_ ?_ ?_ ?_ ?_ ?_⟩
  · rw [Destroyed, hfirst, RelayNode.state?, show entry.node.circuit? entry.ref =
      some (c.setHandler c.handler.close) from hlater]
    exact congrArg some c.handler.close_state
  · intro i
    rw [hop_update, if_neg (Nat.succ_ne_zero i)]
  · rw [hfirst]
    exact ⟨_, reader, hlater, hreader, hwaits⟩
  · rw [hfirst]
    have hstreams : c.handler.streams = ∅ := by
      rw [show chain.kind 0 = .entry from rfl] at hkind
      cases hhandler : c.handler with
      | entry => rfl
      | middle => rfl
      | exit => rw [hhandler] at hkind; cases hkind
    have hidle := ((h.quiescent.idle 0 (by omega)).close hcircuit hstreams).setPhase
      (chain.hop 0).ref.conn (Or.inl rfl)
    exact ⟨hidle.loops, hidle.lock, hidle.readers, hidle.tasks⟩
  · rw [incoming, hfirst, RelayNode.linkCells, show entry.node.circuit? entry.ref =
      some (c.setHandler c.handler.close) from hlater, incoming, RelayNode.linkCells, hcircuit]
    rfl
  · intro _
    rw [hfirst]
    show (chain.hop 0).taken + 1 = (chain.sent ++ [destroy]).length
    rw [htaken, List.length_append]
    rfl
  · intro _
    rw [hfirst]
    have hanswers : entry.answers = (chain.hop 0).answers := by
      simp [ChainHop.answers, entry, node, closed, RelayNode.count, RelayNode.setPhase,
        RelayNode.modifyCircuit, RelayNode.connections_modify]
    rw [hanswers]
    exact h.quiescent.client h.opened
  · intro hclose
    rw [show (told.update 0 entry).closed = chain.closed from rfl, h.opened] at hclose
    cases hclose

/-- However the client ends an established circuit of three relays or more, the circuit is
not torn down: there are later states at rest in which it is not. Unless another connection
destroys it, every relay behind the entry holds it active for ever. -/
theorem never_tornDown (h : chain.Established) (hlong : 3 ≤ chain.length) :
    ¬ chain.TearsDown Destroyed ∧ ¬ chain.TearsDown (fun later => later.closed = true) ∧
      ∀ es later, (system.restrict Undisturbed).Run chain es later →
        ∀ i, 0 < i → i < chain.length →
          (later.hop i).node.state? (later.hop i).ref = some .active := by
  refine ⟨?_, ?_, ?_⟩
  · intro hclaim
    obtain ⟨es, later, hrun, hdestroyed, hquiescent⟩ := h.run_destroy (by omega)
    obtain ⟨hup, hlength⟩ := up_of_run h hrun
    exact hup.not_tornDown (by omega) (hclaim es later hrun.of_restrict hdestroyed hquiescent)
  · intro hclaim
    obtain ⟨es, later, hrun, hclosed, hquiescent⟩ := h.run_closes (by omega)
    obtain ⟨hup, hlength⟩ := up_of_run h hrun
    exact hup.not_tornDown (by omega) (hclaim es later hrun.of_restrict hclosed hquiescent)
  · intro es later hrun i hpos hi
    obtain ⟨hup, hlength⟩ := up_of_run h hrun
    exact (hup.active i hpos (hlength ▸ hi)).2

end

/-! ## Three relays -/

section

variable [Primitives]

/-- The session key of an example relay. -/
def sampleKey (i : Nat) : SessionKey := ⟨FixedBytes.ofNat 16 i, FixedBytes.ofNat 16 (i + 3)⟩

/-- The handler of the entry, the middle and the exit relay of an example circuit. -/
def sampleHandler (i : Nat) : CircuitHandler :=
  let keypair := KeyPair.fromSecretBytes (FixedBytes.ofNat 32 i)
  let hop : HopHandler :=
    ⟨⟨1, .active, some (sampleKey i), some (CipherPair.new (sampleKey i))⟩, keypair,
      some ⟨.next ⟨0, 0⟩ 0, none⟩⟩
  if i = 0 then .entry hop
  else if i = 1 then .middle hop
  else .exit ⟨⟨1, .active, some (sampleKey i), none⟩, keypair, ∅,
    some (ExitCryptoState.new (CipherPair.new (sampleKey i)))⟩

/-- The kind of an example relay. -/
def sampleKind (i : Nat) : NodeType := if i = 0 then .entry else if i = 1 then .middle else .exit

/-- What reaches an example relay while the circuit is built. -/
def sampleCells (i : Nat) : List Message :=
  Message.create 1 (FixedBytes.ofNat 32 0).1 ::
    List.replicate (2 - i) (Message.extend 1 (FixedBytes.ofNat 98 0).1)

/-- What an example relay answers while the circuit is built. -/
def sampleAnswers (i : Nat) : List RelayOutput :=
  .cell (Message.created 1 (FixedBytes.ofNat 64 0).1) ::
    List.replicate (2 - i) (.cell (Message.extended 1 (FixedBytes.ofNat 64 0).1))

/-- The circuit at an example relay. -/
def sampleCircuit (i : Nat) : HeldCircuit :=
  ⟨sampleHandler i, (sampleHandler i).sharedState,
    if i < 2 then [⟨sampleCells (i + 1), some ⟨sampleKind i, 1, 0, .reading⟩⟩] else [], []⟩

/-- An example relay, which holds one circuit. -/
def sampleNode (i : Nat) : RelayNode :=
  { RelayNode.start (sampleKind i) (KeyPair.fromSecretBytes (FixedBytes.ofNat 32 i)) with
    connections := fun n =>
      if n = 0 then ⟨.reading, [sampleCircuit i], sampleAnswers i⟩ else ⟨.reading, [], []⟩
    registry := (∅ : HashMap CircuitId CircuitRef).insert 1 ⟨0, 0⟩ }

/-- An established circuit of three relays. -/
def sampleChain : RelayChain :=
  ⟨1, 3, fun i => ⟨sampleNode i, ⟨0, 0⟩, 0, (sampleCells i).length, (sampleAnswers i).length⟩,
    sampleCells 0, false⟩

theorem sampleNode_circuit (i : Nat) (ref : CircuitRef) :
    (sampleNode i).circuit? ref = if ref = ⟨0, 0⟩ then some (sampleCircuit i) else none := by
  obtain ⟨n, k⟩ := ref
  simp only [RelayNode.circuit?, sampleNode, CircuitRef.mk.injEq]
  by_cases hn : n = 0
  · rw [if_pos hn, List.getElem?_singleton]
    simp [hn]
  · simp [hn]

/-- The example relays are idle. -/
theorem sampleNode_idle (i : Nat) : (sampleNode i).Idle := by
  refine ⟨?_, rfl, ?_, ?_⟩
  · intro n
    left
    show (if n = 0 then _ else _ : RelayConnection).phase = _
    split <;> rfl
  · intro ref c k reader hcircuit hreader
    rw [sampleNode_circuit] at hcircuit
    split at hcircuit
    · cases hcircuit
      left
      rw [HeldCircuit.reader?, sampleCircuit] at hreader
      split at hreader
      · cases k with
        | zero =>
            cases hreader
            rfl
        | succ k => cases hreader
      · cases hreader
    · cases hcircuit
  · intro ref c k task hcircuit htask
    rw [sampleNode_circuit] at hcircuit
    split at hcircuit
    · cases hcircuit
      cases htask
    · cases hcircuit

theorem sampleChain_established : sampleChain.Established := by
  have hheld : ∀ i, (sampleChain.hop i).held? = some (sampleCircuit i) :=
    fun i => sampleNode_circuit i ⟨0, 0⟩
  have hlinks : ∀ i, i < 2 → (sampleCircuit i).links =
      [⟨sampleCells (i + 1), some ⟨sampleKind i, 1, 0, .reading⟩⟩] := fun i hi => if_pos hi
  have hreader : ∀ i, i < 2 →
      (sampleCircuit i).reader? 0 = some ⟨sampleKind i, 1, 0, .reading⟩ := by
    intro i hi
    rw [HeldCircuit.reader?, hlinks i hi]
    rfl
  have hincoming : ∀ i, i < 3 → sampleChain.incoming i = sampleCells i := by
    intro i hi
    cases i with
    | zero => rfl
    | succ i =>
        show RelayNode.linkCells (sampleNode i) ⟨0, 0⟩ 0 = _
        rw [RelayNode.linkCells, sampleNode_circuit]
        show HeldCircuit.linkCells (sampleCircuit i) 0 = _
        rw [HeldCircuit.linkCells, hlinks i (by omega)]
        rfl
  refine ⟨rfl, ⟨?_, ?_, ?_, ?_, ?_, ?_, ?_⟩, fun _ _ => rfl, fun _ _ => rfl, ?_, ?_⟩
  · exact fun i _ => sampleNode_idle i
  · intro i hi hphase
    rw [hincoming i hi]
    rfl
  · exact fun _ _ _ => rfl
  · exact fun _ => rfl
  · intro hclosed
    cases hclosed
  · intro i hi hnot
    exact absurd ⟨_, hheld i, Or.inr ⟨_, hreader i (Nat.lt_of_succ_lt_succ hi), by simp⟩⟩ hnot
  · intro i hi hnot
    refine absurd (Or.inl ?_) hnot
    show ConnectionPhase.reading ≠ _
    simp
  · intro i hi
    refine ⟨_, hheld i, ?_⟩
    have hthree : i < 3 := hi
    have hplace : i = 0 ∨ i = 1 ∨ i = 2 := by omega
    rcases hplace with rfl | rfl | rfl <;>
      exact ⟨rfl, rfl, rfl, by simp [sampleCircuit, sampleHandler,
        CircuitHandler.sessionKey, CircuitHandler.context], by simp [sampleCircuit, sampleHandler,
        CircuitHandler.cipherPair, CircuitHandler.sharedState]⟩
  · intro i hi
    have hthree : i + 1 < 3 := hi
    have hplace : i = 0 ∨ i = 1 := by omega
    refine ⟨_, hheld i, ?_, ?_⟩
    · rcases hplace with rfl | rfl <;> rfl
    · rw [show (sampleChain.hop i).link = 0 from rfl, hreader i (Nat.lt_of_succ_lt_succ hi)]
      rcases hplace with rfl | rfl <;> rfl

end

section

open Reference

/-- The example circuit is established, and is not torn down. -/
theorem never_tornDown_threeRelays :
    sampleChain.Established ∧ ¬ sampleChain.TearsDown Destroyed :=
  ⟨sampleChain_established, (never_tornDown sampleChain_established (le_refl 3)).1⟩

/-- Not every established circuit that its client ends is torn down. -/
theorem not_tornDown_threeRelays :
    ¬ ∀ chain : RelayChain, chain.Established → 3 ≤ chain.length → chain.TearsDown Ended := by
  intro hclaim
  obtain ⟨es, later, hrun, hdestroyed, hquiescent⟩ :=
    sampleChain_established.run_destroy (by decide)
  obtain ⟨hup, hlength⟩ := up_of_run sampleChain_established hrun
  have htorn := hclaim sampleChain sampleChain_established (le_refl 3) es later hrun.of_restrict
    (Or.inl hdestroyed) hquiescent
  exact hup.not_tornDown (by rw [hlength]; decide) htorn

end

end RelayChain

end NoPanic
