/-
# The bytes a relay says it forwarded

`bytes_forwarded` is counted in two places. The loop of a connection adds the payload of
each answer it writes back, unless the answer belongs to EXTEND or DESTROY, and an exit
adds the data it queues for a destination. A cell that an entry or a middle relay passes
on has no answer, and passes neither place.

A run here is what one loop does with the cells of one circuit while the readers and the
streams of the relay go on. Its cost is what the counter gets wrong: at an entry or a
middle relay the payload of each cell, at an exit the texts of the ENDs that it answers.
-/

import NoPanic.Common.Reference
import NoPanic.Relay.NextHopCells

namespace NoPanic

open NoPanic.Math

/-! ## What a circuit has passed on -/

/-- The bytes that a stream has been given for its destination. -/
def ExitTask.takenBytes (task : ExitTask) : Nat :=
  ((task.written ++ task.queued).map List.length).sum

/-- A change of one entry of a list does not show in a function that it keeps there. -/
theorem map_modify_of_eq {α β : Type} {f : α → α} {g : α → β} {l : List α} {k : Nat}
    (hkeep : ∀ a, l[k]? = some a → g (f a) = g a) : (l.modify k f).map g = l.map g := by
  apply List.ext_getElem?
  intro i
  rw [List.getElem?_map, List.getElem?_map, List.getElem?_modify]
  by_cases hk : k = i
  · subst hk
    cases hentry : l[k]? with
    | none => rfl
    | some a => simp [hkeep a hentry]
  · simp [hk]

/-- What of a circuit bears on the bytes it passes on: where its cells go, the cells on the
connections it opened, and the bytes queued for its destinations. -/
structure CircuitFlow where
  nodeType : NodeType
  nextHop : Option ConnId
  links : List (List Message)
  queuedBytes : Nat

/-- The flow of a circuit. -/
def HeldCircuit.flow (c : HeldCircuit) : CircuitFlow where
  nodeType := c.handler.nodeType
  nextHop := c.handler.nextHop.map NextHop.write
  links := c.links.map NextHopLink.written
  queuedBytes := (c.tasks.map ExitTask.takenBytes).sum

namespace RelayNode

/-- The flow of a circuit, by where the circuit was created. -/
def flow? (node : RelayNode) (ref : CircuitRef) : Option CircuitFlow :=
  (node.circuit? ref).map HeldCircuit.flow

/-- The payload bytes written to a connection that a circuit opened. -/
def linkBytes (node : RelayNode) (ref : CircuitRef) (k : Nat) : Nat :=
  ((node.linkCells ref k).map fun msg => msg.data.length).sum

/-- The payload bytes a circuit has passed on: written to its next hop, or, where there is
none, queued for its destinations. -/
def passedOn (node : RelayNode) (ref : CircuitRef) : Nat :=
  match node.flow? ref with
  | none => 0
  | some flow =>
      match flow.nextHop with
      | some (.next owner k) => node.linkBytes owner k
      | some (.prev _) => 0
      | none => flow.queuedBytes

/-- Nothing has happened to the registry, to the counter or to the flow of any circuit. -/
structure SameFlow (before after : RelayNode) : Prop where
  registry : after.registry = before.registry
  forwarded : after.metrics.bytesForwarded = before.metrics.bytesForwarded
  flows : ∀ ref, after.flow? ref = before.flow? ref

section

variable {s s' s'' : RelayNode}

theorem SameFlow.refl (s : RelayNode) : SameFlow s s := ⟨rfl, rfl, fun _ => rfl⟩

theorem SameFlow.trans (first : SameFlow s s') (second : SameFlow s' s'') : SameFlow s s'' :=
  ⟨second.registry.trans first.registry, second.forwarded.trans first.forwarded,
    fun ref => (second.flows ref).trans (first.flows ref)⟩

/-- The cells on a link are part of the flow of its circuit. -/
theorem linkCells_eq_flow (node : RelayNode) (ref : CircuitRef) (k : Nat) :
    node.linkCells ref k = (node.flow? ref).elim [] fun flow => (flow.links[k]?).getD [] := by
  rw [linkCells, flow?]
  cases node.circuit? ref with
  | none => rfl
  | some c =>
      simp only [Option.elim_some, Option.map_some, HeldCircuit.linkCells, HeldCircuit.flow,
        List.getElem?_map]
      cases c.links[k]? <;> rfl

/-- What is written to a link is read off the flows. -/
theorem linkBytes_congr (hflows : ∀ ref, s'.flow? ref = s.flow? ref) (ref : CircuitRef) (k : Nat) :
    s'.linkBytes ref k = s.linkBytes ref k := by
  rw [linkBytes, linkCells_eq_flow, hflows, ← linkCells_eq_flow, linkBytes]

/-- What a circuit has passed on is read off the flows. -/
theorem passedOn_congr (hflows : ∀ ref, s'.flow? ref = s.flow? ref) (ref : CircuitRef) :
    s'.passedOn ref = s.passedOn ref := by
  simp only [passedOn, hflows, linkBytes_congr hflows]

/-! ### Changes that keep the flow -/

/-- The flow of the circuits after one has been changed. -/
theorem flow?_modifyCircuit (s : RelayNode) (ref : CircuitRef) (f : HeldCircuit → HeldCircuit)
    (ref' : CircuitRef) :
    (s.modifyCircuit ref f).flow? ref' =
      if ref' = ref then (s.circuit? ref).map fun c => (f c).flow else s.flow? ref' := by
  rw [flow?, circuit?_modifyCircuit]
  split
  · rw [Option.map_map]
    rfl
  · rfl

theorem sameFlow_modifyCircuit (s : RelayNode) (ref : CircuitRef) {f : HeldCircuit → HeldCircuit}
    (hf : ∀ c, s.circuit? ref = some c → (f c).flow = c.flow) :
    SameFlow s (s.modifyCircuit ref f) := by
  refine ⟨rfl, rfl, ?_⟩
  intro ref'
  rw [flow?_modifyCircuit]
  split
  · next heq =>
    rw [heq, flow?]
    cases hcircuit : s.circuit? ref with
    | none => rfl
    | some c => rw [Option.map_some, Option.map_some, hf c hcircuit]
  · rfl

theorem sameFlow_setPhase (s : RelayNode) (n : Nat) (phase : ConnectionPhase) :
    SameFlow s (s.setPhase n phase) :=
  ⟨rfl, rfl, fun ref => by rw [flow?, circuit?_setPhase, flow?]⟩

theorem sameFlow_output (s : RelayNode) (n : Nat) (out : RelayOutput) :
    SameFlow s (s.output n out) :=
  ⟨rfl, rfl, fun ref => by rw [flow?, circuit?_output, flow?]⟩

theorem sameFlow_count (s : RelayNode) {f : RelayMetrics → RelayMetrics}
    (hf : ∀ m, (f m).bytesForwarded = m.bytesForwarded) : SameFlow s (s.count f) :=
  ⟨rfl, hf _, fun _ => rfl⟩

/-- A change of a link that writes nothing to it. -/
theorem sameFlow_modifyLink (s : RelayNode) (ref : CircuitRef) (k : Nat)
    {f : NextHopLink → NextHopLink} (hf : ∀ link, (f link).written = link.written) :
    SameFlow s (s.modifyCircuit ref fun c => c.modifyLink k f) := by
  apply sameFlow_modifyCircuit
  intro c hcircuit
  have hlinks : (c.links.modify k f).map NextHopLink.written =
      c.links.map NextHopLink.written := map_modify_of_eq fun link _ => hf link
  simp only [HeldCircuit.flow, HeldCircuit.modifyLink, hlinks]

/-- A change of a task that gives it nothing. -/
theorem sameFlow_modifyTask (s : RelayNode) (ref : CircuitRef) (i : Nat) {f : ExitTask → ExitTask}
    (hf : ∀ c task, s.circuit? ref = some c → c.tasks[i]? = some task →
      (f task).takenBytes = task.takenBytes) :
    SameFlow s (s.modifyCircuit ref fun c => c.modifyTask i f) := by
  apply sameFlow_modifyCircuit
  intro c hcircuit
  have htasks : (c.tasks.modify i f).map ExitTask.takenBytes = c.tasks.map ExitTask.takenBytes :=
    map_modify_of_eq fun task htask => hf c task hcircuit htask
  simp only [HeldCircuit.flow, HeldCircuit.modifyTask, htasks]

/-- A call of a handler that keeps its next hop. -/
theorem sameFlow_setHandler (s : RelayNode) {ref : CircuitRef} {c : HeldCircuit}
    {handler : CircuitHandler} (hcircuit : s.circuit? ref = some c)
    (hkind : handler.nodeType = c.handler.nodeType) (hnext : handler.nextHop = c.handler.nextHop) :
    SameFlow s (s.modifyCircuit ref fun c' => c'.setHandler handler) := by
  apply sameFlow_modifyCircuit
  intro c' hcircuit'
  rw [hcircuit] at hcircuit'
  cases hcircuit'
  simp only [HeldCircuit.flow, HeldCircuit.setHandler, hkind, hnext]

/-- A task changes the crypto state it shares with its handler. -/
theorem sameFlow_setShared (s : RelayNode) (ref : CircuitRef) (state : ExitCryptoState) :
    SameFlow s (s.modifyCircuit ref fun c => c.setShared state) := by
  apply sameFlow_modifyCircuit
  intro c hcircuit
  simp only [HeldCircuit.flow, HeldCircuit.setShared]
  cases c.handler <;> rfl

/-! ### The readers and the streams -/

/-- The readers and the streams pass nothing forward that was not queued already, and leave
the loops alone. -/
theorem backgroundFrame_sameFlow [Primitives] [AddrText] : BackgroundFrame fun s s' =>
    SameFlow s s' ∧ ∀ n, (s'.connections n).phase = (s.connections n).phase where
  refl s := ⟨.refl s, fun _ => rfl⟩
  trans first second := ⟨first.1.trans second.1, fun n => (second.2 n).trans (first.2 n)⟩
  output s n out := ⟨sameFlow_output s n out, phase_output s n out⟩
  addReceived s _ := ⟨sameFlow_count s fun _ => rfl, phase_count s _⟩
  setReader s ref k _ := ⟨sameFlow_modifyLink s ref k fun _ => rfl, phase_modifyCircuit s ref _⟩
  calls := by
    intro s ref c hcircuit msg
    refine ⟨sameFlow_setHandler s hcircuit ?_ ?_, phase_modifyCircuit s ref _⟩
    · exact c.handler.handleBackwardRelay_nodeType msg
    · exact c.handler.handleBackwardRelay_nextHop msg
  setShared s ref state := ⟨sameFlow_setShared s ref state, phase_modifyCircuit s ref _⟩
  modifyTask := by
    intro s ref i f hdata
    refine ⟨sameFlow_modifyTask s ref i ?_, phase_modifyCircuit s ref _⟩
    intro c task hcircuit htask
    rw [ExitTask.takenBytes, hdata c task hcircuit htask, ExitTask.takenBytes]

end

end RelayNode

/-! ## What a handler does with a forward cell -/

section

variable [Primitives] {io : RelayIo} {msg : Message}

/-- A hop that knows its next hop either fails or writes the cell there, as long as it was. -/
theorem HopHandler.handleRelay_passes (texts : HopTexts) {h : HopHandler} {hop : NextHop}
    (hnext : h.nextHop = some hop) (io : RelayIo) (msg : Message) :
    (∃ e, (handleRelay texts h io msg).result = .error e) ∨
      ∃ h' passed, handleRelay texts h io msg = ⟨h', [.send hop.write passed], .ok none⟩ ∧
        h'.nextHop = some hop ∧ passed.data.length = msg.data.length := by
  unfold handleRelay
  split
  · exact Or.inl ⟨_, rfl⟩
  · next pair hpair =>
    dsimp only
    rw [setCipher_nextHop, hnext]
    dsimp only
    split
    · exact Or.inl ⟨_, rfl⟩
    · refine Or.inr ⟨_, _, rfl, hnext, ?_⟩
      simp [Message.new]

/-- An entry or a middle handler that knows its next hop either fails at a cell of a stream
or writes it there. -/
theorem CircuitHandler.handleMessage_passes [AddrText] {handler : CircuitHandler} {hop : NextHop}
    (hkind : handler.nodeType ≠ .exit) (hnext : handler.nextHop = some hop)
    (hcommand : msg.command = .begin ∨ msg.command = .data ∨ msg.command = .end)
    (io : RelayIo) (prevHop : Option ConnId) :
    (∃ e, (handler.handleMessage io prevHop msg).result = .error e) ∨
      ∃ handler' passed,
        handler.handleMessage io prevHop msg = ⟨handler', [.send hop.write passed], .ok none⟩ ∧
        handler'.nodeType = handler.nodeType ∧ handler'.nextHop = some hop ∧
        passed.data.length = msg.data.length := by
  cases handler with
  | entry h =>
      have hcall : EntryCircuitHandler.handleMessage h io msg =
          HopHandler.handleRelay EntryCircuitHandler.texts h io msg := by
        rcases hcommand with hcommand | hcommand | hcommand <;>
          simp only [EntryCircuitHandler.handleMessage, hcommand, EntryCircuitHandler.handleRelay]
      simp only [handleMessage, hcall]
      rcases HopHandler.handleRelay_passes EntryCircuitHandler.texts hnext io msg with
        ⟨e, he⟩ | ⟨h', passed, hrelay, hnext', hlength⟩
      · exact Or.inl ⟨e, he⟩
      · rw [hrelay]
        exact Or.inr ⟨.entry h', passed, rfl, rfl, hnext', hlength⟩
  | middle h =>
      have hcall : MiddleCircuitHandler.handleMessage h io msg =
          HopHandler.handleRelay MiddleCircuitHandler.texts h io msg := by
        rcases hcommand with hcommand | hcommand | hcommand <;>
          simp only [MiddleCircuitHandler.handleMessage, hcommand,
            MiddleCircuitHandler.handleRelay]
      simp only [handleMessage, hcall]
      rcases HopHandler.handleRelay_passes MiddleCircuitHandler.texts hnext io msg with
        ⟨e, he⟩ | ⟨h', passed, hrelay, hnext', hlength⟩
      · exact Or.inl ⟨e, he⟩
      · rw [hrelay]
        exact Or.inr ⟨.middle h', passed, rfl, rfl, hnext', hlength⟩
  | exit h => exact absurd rfl hkind

/-- What an exit does outside that passes nothing on. -/
def RelayEffect.Aside : RelayEffect → Prop
  | .send (.prev _) _ => True
  | .recovered .. | .sealed .. | .attempt .. | .openStream .. => True
  | _ => False

namespace ExitCircuitHandler

/-- The bytes of the END that an exit answers when it cannot do what a cell asks for. -/
def refusalBytes (h : ExitCircuitHandler) (io : RelayIo) (msg : Message) : Nat :=
  match msg.command with
  | .begin =>
      match (h.destination? msg).map fun dest => (io.connectTo dest).2 with
      | some (.error e) => (asBytes s!"Connection failed: {e}").length
      | _ => 0
  | .data =>
      if (h.streams.lookup msg.streamId).isSome then
        if io.destinationOpen msg.streamId then 0 else (asBytes "Destination closed").length
      else (asBytes "Stream not found").length
  | _ => 0

/-- How a cell of a stream comes out at an exit. -/
inductive Outcome (h : ExitCircuitHandler) (io : RelayIo) (msg : Message) :
    Handled ExitCircuitHandler (Option Message) → Prop
  | fails {h' : ExitCircuitHandler} {effects : List RelayEffect} (e : RelayError) :
      Outcome h io msg ⟨h', effects, .error e⟩
  | opens {h' : ExitCircuitHandler} {effects : List RelayEffect}
      (haside : ∀ effect ∈ effects, effect.Aside) (hserved : h.refusalBytes io msg = 0) :
      Outcome h io msg ⟨h', effects, .ok none⟩
  | queues {h' : ExitCircuitHandler} (data : Bytes)
      (hopen : io.destinationOpen msg.streamId = true) (hserved : h.refusalBytes io msg = 0) :
      Outcome h io msg ⟨h', [.recovered msg.streamId msg.command data, .queue msg.streamId data],
        .ok none⟩
  | answers {h' : ExitCircuitHandler} {effects : List RelayEffect} {response : Message}
      (haside : ∀ effect ∈ effects, effect.Aside)
      (hlength : response.data.length = h.refusalBytes io msg) :
      Outcome h io msg ⟨h', effects, .ok (some response)⟩

/-- An END reply is as long as its text. -/
theorem outcome_replyEnd {h h' : ExitCircuitHandler} {state : ExitCryptoState}
    {effects : List RelayEffect} {streamId : StreamId} {text : Bytes}
    (haside : ∀ effect ∈ effects, effect.Aside) (htext : text.length = h.refusalBytes io msg) :
    h.Outcome io msg (h'.replyEnd state effects streamId text) := by
  apply Outcome.answers
  · intro effect hmem
    rcases List.mem_append.mp hmem with hmem | hmem
    · exact haside effect hmem
    · rw [List.mem_singleton.mp hmem]
      trivial
  · rw [← htext]
    simp [Message.new]

/-- BEGIN connects, or is answered with the reason why not. -/
theorem outcome_handleBegin (h : ExitCircuitHandler) (n : Nat) (hcommand : msg.command = .begin) :
    h.Outcome io msg (h.handleBegin io (.prev n) msg) := by
  unfold handleBegin
  split
  · exact .fails _
  · next state hshared =>
    dsimp only
    split
    · exact .fails _
    · next hinvalid =>
      have hvalid : (state.openCell msg).2.2 = true := by simpa using hinvalid
      split
      · exact .fails _
      · next text htext =>
        have hdest : h.destination? msg = some (trimEndZeros text) := by
          simp [destination?, hshared, hcommand, hvalid, htext]
        have htried : ∀ effect ∈ RelayEffect.recovered msg.streamId msg.command
            (state.openCell msg).2.1 ::
              (io.connectTo (trimEndZeros text)).1.map RelayEffect.attempt, effect.Aside := by
          intro effect hmem
          rcases List.mem_cons.mp hmem with rfl | hmem
          · trivial
          · obtain ⟨addr, -, rfl⟩ := List.mem_map.mp hmem
            trivial
        split
        · next hconnected =>
          split
          · exact .fails _
          · apply Outcome.opens
            · intro effect hmem
              simp only [List.mem_append, List.mem_cons, List.not_mem_nil, or_false] at hmem
              rcases hmem with (hmem | rfl) | rfl | rfl
              · exact htried effect (List.mem_cons.mpr hmem)
              · trivial
              · trivial
              · trivial
            · simp [refusalBytes, hcommand, hdest, hconnected]
        · next e hfailed =>
          apply outcome_replyEnd htried
          simp [refusalBytes, hcommand, hdest, hfailed]

/-- DATA is queued, or is answered with the reason why not. -/
theorem outcome_handleData (h : ExitCircuitHandler) (hcommand : msg.command = .data) :
    h.Outcome io msg (h.handleData io msg) := by
  unfold handleData
  split
  · exact .fails _
  · next state hshared =>
    dsimp only
    split
    · exact .fails _
    · have hmark : ∀ effect ∈ [RelayEffect.recovered msg.streamId msg.command
          (state.openCell msg).2.1], effect.Aside := by
        intro effect hmem
        rw [List.mem_singleton.mp hmem]
        trivial
      split
      · next stream hstream =>
        split
        · next hopen =>
          exact .queues _ hopen (by simp [refusalBytes, hcommand, hstream, hopen])
        · next hclosed =>
          exact outcome_replyEnd hmark (by simp [refusalBytes, hcommand, hstream, hclosed])
      · next hstream =>
        exact outcome_replyEnd hmark (by simp [refusalBytes, hcommand, hstream])

/-- END is answered with an END that carries no byte. -/
theorem outcome_handleEnd (h : ExitCircuitHandler) (hcommand : msg.command = .end) :
    h.Outcome io msg (h.handleEnd msg) := by
  unfold handleEnd
  split
  · exact .fails _
  · dsimp only
    split
    · exact .fails _
    · apply outcome_replyEnd
      · intro effect hmem
        rw [List.mem_singleton.mp hmem]
        trivial
      · simp [refusalBytes, hcommand]

/-- The outcome of a cell of a stream. -/
theorem outcome_handleMessage (h : ExitCircuitHandler) (io : RelayIo) (n : Nat)
    (hcommand : msg.command = .begin ∨ msg.command = .data ∨ msg.command = .end) :
    h.Outcome io msg (h.handleMessage io (some (.prev n)) msg) := by
  unfold handleMessage
  rcases hcommand with hcommand | hcommand | hcommand
  · simp only [hcommand]
    exact h.outcome_handleBegin n hcommand
  · simp only [hcommand]
    exact h.outcome_handleData hcommand
  · simp only [hcommand]
    exact h.outcome_handleEnd hcommand

end ExitCircuitHandler

end

/-! ## An established circuit -/

namespace RelayNode

/-- An established circuit: the registry finds it, and unless it ends here its next hop is a
connection that a circuit opened. -/
structure Established (node : RelayNode) (circuitId : CircuitId) (ref : CircuitRef)
    (nodeType : NodeType) (nextHop : Option ConnId) : Prop where
  lookup : node.registry.lookup circuitId = some ref
  flow : ∃ flow, node.flow? ref = some flow ∧ flow.nodeType = nodeType ∧ flow.nextHop = nextHop
  next : nodeType ≠ .exit → ∃ owner k flow, nextHop = some (.next owner k) ∧
    node.flow? owner = some flow ∧ k < flow.links.length

section

variable {s t : RelayNode} {n : Nat} {circuitId : CircuitId} {ref : CircuitRef}
  {nodeType : NodeType} {nextHop : Option ConnId}

/-! ### What keeps a circuit established -/

/-- A circuit stays established as long as its flow is what it was. -/
theorem Established.congr (h : s.Established circuitId ref nodeType nextHop)
    (hregistry : t.registry = s.registry) (hflows : ∀ ref, t.flow? ref = s.flow? ref) :
    t.Established circuitId ref nodeType nextHop := by
  refine ⟨by rw [hregistry, h.lookup], ?_, ?_⟩
  · rw [hflows]
    exact h.flow
  · intro hkind
    obtain ⟨owner, k, flow, hnext, hflow, hlink⟩ := h.next hkind
    exact ⟨owner, k, flow, hnext, by rw [hflows, hflow], hlink⟩

/-- A circuit stays established when cells are written or data is queued. -/
theorem Established.modifyCircuit (h : s.Established circuitId ref nodeType nextHop)
    (ref' : CircuitRef) {f : HeldCircuit → HeldCircuit} (hhandler : ∀ c, (f c).handler = c.handler)
    (hlinks : ∀ c, (f c).links.length = c.links.length) :
    (s.modifyCircuit ref' f).Established circuitId ref nodeType nextHop := by
  have hkeep : ∀ owner flow, s.flow? owner = some flow → ∃ flow',
      (s.modifyCircuit ref' f).flow? owner = some flow' ∧ flow'.nodeType = flow.nodeType ∧
        flow'.nextHop = flow.nextHop ∧ flow'.links.length = flow.links.length := by
    intro owner flow hflow
    rw [flow?_modifyCircuit]
    split
    · next heq =>
      rw [heq] at hflow
      obtain ⟨c, hcircuit, rfl⟩ := Option.map_eq_some_iff.mp hflow
      refine ⟨(f c).flow, by rw [hcircuit, Option.map_some], ?_, ?_, ?_⟩
      · simp only [HeldCircuit.flow, hhandler]
      · simp only [HeldCircuit.flow, hhandler]
      · simp only [HeldCircuit.flow, List.length_map, hlinks]
    · exact ⟨flow, hflow, rfl, rfl, rfl⟩
  refine ⟨h.lookup, ?_, ?_⟩
  · obtain ⟨flow, hflow, hkind, hnext⟩ := h.flow
    obtain ⟨flow', hflow', hkind', hnext', -⟩ := hkeep ref flow hflow
    exact ⟨flow', hflow', hkind'.trans hkind, hnext'.trans hnext⟩
  · intro hkind
    obtain ⟨owner, k, flow, hnext, hflow, hlink⟩ := h.next hkind
    obtain ⟨flow', hflow', -, -, hlength⟩ := hkeep owner flow hflow
    exact ⟨owner, k, flow', hnext, hflow', hlength ▸ hlink⟩

/-! ### What a handler does, carried out -/

/-- What passes nothing on keeps the flow. -/
theorem sameFlow_deliver (n : Nat) (ref : CircuitRef) (s : RelayNode) {effect : RelayEffect}
    (haside : effect.Aside) : SameFlow s (deliver n ref s effect) := by
  cases effect with
  | dial | queue => exact haside.elim
  | send conn msg =>
      cases conn with
      | prev m => exact sameFlow_output s m _
      | next owner k => exact haside.elim
  | openStream streamId destination =>
      have hopened : SameFlow s (s.modifyCircuit ref fun c =>
          { c with tasks := c.tasks ++ [⟨streamId, n, .idle, 0, [], []⟩] }) := by
        apply sameFlow_modifyCircuit
        intro c hcircuit
        simp [HeldCircuit.flow, ExitTask.takenBytes]
      exact hopened.trans (sameFlow_count _ fun _ => rfl)
  | recovered | sealed | attempt => exact .refl s

theorem sameFlow_effects (n : Nat) (ref : CircuitRef) (s : RelayNode)
    {effects : List RelayEffect} (haside : ∀ effect ∈ effects, effect.Aside) :
    SameFlow s (effects.foldl (deliver n ref) s) :=
  List.foldlRecOn effects (deliver n ref) (.refl s) fun t hdone effect hmem =>
    hdone.trans (sameFlow_deliver n ref t (haside effect hmem))

/-- A cell of a stream ends its round without further ado. -/
theorem conclude_stream {command : MessageCommand}
    (hcommand : command = .begin ∨ command = .data ∨ command = .end) (s : RelayNode) (n : Nat)
    (circuitId : CircuitId) : s.conclude n command circuitId = s.setPhase n .reading := by
  rcases hcommand with rfl | rfl | rfl <;> rfl

/-- Writing a cell to a link adds its payload to what is written there. -/
theorem linkBytes_push {owner : CircuitRef} {k : Nat} {flow : CircuitFlow} (cell : Message)
    (hflow : s.flow? owner = some flow) (hlink : k < flow.links.length) :
    (s.modifyCircuit owner fun c =>
      c.modifyLink k fun link =>
        { link with written := link.written ++ [cell] }).linkBytes owner k =
      s.linkBytes owner k + cell.data.length := by
  obtain ⟨c, hcircuit, rfl⟩ := Option.map_eq_some_iff.mp hflow
  have hk : k < c.links.length := by simpa [HeldCircuit.flow] using hlink
  simp only [linkBytes, linkCells, circuit?_modifyCircuit, if_true, hcircuit, Option.map_some,
    Option.elim_some, HeldCircuit.linkCells, HeldCircuit.modifyLink, List.getElem?_modify,
    List.getElem?_eq_getElem hk]
  simp

/-- A stream that takes data has a task. -/
theorem any_of_accepts {c : HeldCircuit} {streamId : StreamId}
    (haccepts : c.accepts streamId = true) :
    c.tasks.any fun task => task.streamId == streamId := by
  rw [HeldCircuit.accepts, Option.any_eq_true] at haccepts
  obtain ⟨task, hfound, -⟩ := haccepts
  have hid : (task.streamId == streamId) = true := by simpa using List.find?_some hfound
  rw [List.any_eq_true]
  exact ⟨task, List.mem_reverse.mp (List.mem_of_find?_eq_some hfound), hid⟩

/-- Queued data reaches the last task of its stream, if the stream has a task. -/
theorem takenBytes_queueLast {streamId : StreamId} (data : Bytes) {tasks : List ExitTask}
    (hany : tasks.any fun task => task.streamId == streamId) :
    ((ExitTask.queueLast streamId data tasks).map ExitTask.takenBytes).sum =
      (tasks.map ExitTask.takenBytes).sum + data.length := by
  induction tasks with
  | nil => simp at hany
  | cons task rest ih =>
      rw [ExitTask.queueLast]
      split
      · simp only [List.map_cons, List.sum_cons, ExitTask.takenBytes, List.map_append,
          List.sum_append, List.map_nil, List.sum_nil]
        omega
      · next hlater =>
        have hrest : rest.any fun later => later.streamId == streamId := by
          by_cases hmine : task.streamId = streamId
          · by_contra hnone
            exact hlater ⟨hmine, hnone⟩
          · simpa [hmine] using hany
        rw [List.map_cons, List.sum_cons, ih hrest, List.map_cons, List.sum_cons]
        omega

/-- Data that is queued for an open stream of an exit is passed on. -/
theorem queue_passes {c : HeldCircuit} {exit : ExitCircuitHandler} {streamId : StreamId}
    (exit' : ExitCircuitHandler) (data : Bytes)
    (h : s.Established circuitId ref .exit nextHop)
    (hcircuit : s.circuit? ref = some c) (hexit : c.handler = .exit exit)
    (haccepts : c.accepts streamId = true) :
    let queued := (s.modifyCircuit ref fun c' => c'.setHandler (.exit exit')).modifyCircuit ref
      fun c' => { c' with tasks := ExitTask.queueLast streamId data c'.tasks }
    queued.Established circuitId ref .exit nextHop ∧
      queued.passedOn ref = s.passedOn ref + data.length := by
  intro queued
  have hsame : SameFlow s (s.modifyCircuit ref fun c' => c'.setHandler (.exit exit')) :=
    sameFlow_setHandler s hcircuit (by rw [hexit]; rfl) (by rw [hexit]; rfl)
  have hcalled : (s.modifyCircuit ref fun c' => c'.setHandler (.exit exit')).circuit? ref =
      some (c.setHandler (.exit exit')) := by
    rw [circuit?_modifyCircuit, if_pos rfl, hcircuit, Option.map_some]
  have hflow : s.flow? ref = some c.flow := by rw [flow?, hcircuit, Option.map_some]
  have htaken := takenBytes_queueLast data (any_of_accepts haccepts)
  constructor
  · exact (h.congr hsame.registry hsame.flows).modifyCircuit ref (fun _ => rfl) fun _ => rfl
  · simp only [passedOn, hflow, queued, flow?_modifyCircuit, if_true, hcalled, Option.map_some]
    simp only [HeldCircuit.flow, hexit, HeldCircuit.setHandler, CircuitHandler.nextHop,
      Option.map_none, htaken]

/-- The loop writes the answer to a cell of a stream, and counts it. -/
theorem reply_counts {command : MessageCommand} {id : CircuitId} {response : Message}
    {stream : Except String Unit} (h : s.Established circuitId ref nodeType nextHop)
    (hcommand : command = .begin ∨ command = .data ∨ command = .end)
    (hlives : ((s.reply n command id response stream).connections n).phase ≠ .ended) :
    (s.reply n command id response stream).Established circuitId ref nodeType nextHop ∧
      ((s.reply n command id response stream).connections n).phase = .reading ∧
      (s.reply n command id response stream).passedOn ref = s.passedOn ref ∧
      (s.reply n command id response stream).metrics.bytesForwarded =
        s.metrics.bytesForwarded + UInt64.ofNat response.data.length := by
  revert hlives
  unfold reply
  split
  · intro hlives
    exact absurd (phase_setPhase s n .ended) hlives
  · intro _
    dsimp only
    have hcount : (s.output n (.cell response)).countReply command response.data.length =
        (s.output n (.cell response)).count fun m => m.addForwarded response.data.length := by
      rcases hcommand with rfl | rfl | rfl <;> rfl
    rw [hcount, conclude_stream hcommand]
    have hout := sameFlow_output s n (.cell response)
    have hphase := (sameFlow_setPhase ((s.output n (.cell response)).count fun m =>
      m.addForwarded response.data.length) n .reading).flows
    have hflows : ∀ ref', (((s.output n (.cell response)).count fun m =>
        m.addForwarded response.data.length).setPhase n .reading).flow? ref' = s.flow? ref' :=
      fun ref' => (hphase ref').trans (hout.flows ref')
    exact ⟨h.congr rfl hflows, phase_setPhase .., passedOn_congr hflows ref, rfl⟩

end

end RelayNode

/-! ## The loop of a connection -/

namespace ConnectionPhase

/-- A loop that serves a circuit reads, or has an answer to a cell of a stream to write. -/
def Serves : ConnectionPhase → Prop
  | .reading => True
  | .replying command _ _ => command = .begin ∨ command = .data ∨ command = .end
  | _ => False

/-- The bytes that the loop counts when it has written its answer. -/
def owedBytes : ConnectionPhase → Nat
  | .replying _ _ response => response.data.length
  | _ => 0

end ConnectionPhase

section

variable [Primitives]

/-- What the counter gets wrong at a cell of a stream: an entry or a middle relay leaves the
payload out that it passes on, an exit counts the END that it answers. -/
def CircuitHandler.miscountedBytes (handler : CircuitHandler) (io : RelayIo) (msg : Message) :
    Nat :=
  match handler with
  | .exit h => h.refusalBytes io msg
  | _ => msg.data.length

namespace RelayNode

/-- What the counter gets wrong at a step: that of the cell the loop takes, if it takes one. -/
def miscounted (node : RelayNode) : RelayNodeEvent → Nat
  | .arrives _ msg io =>
      match (node.registry.lookup msg.circuitId).bind node.circuit? with
      | some c => c.handler.miscountedBytes io msg
      | none => 0
  | _ => 0

/-- The loop of connection `n` takes BEGIN, DATA and END cells of one circuit and writes its
answers, while the readers and the streams go on. -/
def Serves (n : Nat) (circuitId : CircuitId) (e : RelayNodeEvent) : Prop :=
  match e with
  | .arrives m msg _ => m = n ∧ msg.circuitId = circuitId ∧
      (msg.command = .begin ∨ msg.command = .data ∨ msg.command = .end)
  | .writes m _ => m = n
  | _ => e.Background

variable [AddrText]

/-- The runs in which the loop of connection `n` serves a circuit and does not end. -/
def serving (n : Nat) (circuitId : CircuitId) : TransitionSystem RelayNode RelayNodeEvent where
  init _ := True
  step s e t := Step s e t ∧ Serves n circuitId e ∧ (t.connections n).phase ≠ .ended

/-- The counter has grown by exactly the payload bytes that the circuit has passed on. -/
def CountsPassedOn (before after : RelayNode) (ref : CircuitRef) : Prop :=
  ∃ grown, after.passedOn ref = before.passedOn ref + grown ∧
    after.metrics.bytesForwarded = before.metrics.bytesForwarded + UInt64.ofNat grown

variable {s t : RelayNode} {n : Nat} {circuitId : CircuitId} {ref : CircuitRef}
  {nodeType : NodeType} {nextHop : Option ConnId}

/-! ### Entry and middle relays -/

/-- A cell that an entry or a middle relay takes is written to the next hop, and the counter
stays where it was. -/
theorem dispatch_passes {owner : CircuitRef} {k : Nat} {msg : Message} {io : RelayIo}
    (h : s.Established circuitId ref nodeType (some (.next owner k))) (hkind : nodeType ≠ .exit)
    (hid : msg.circuitId = circuitId)
    (hcommand : msg.command = .begin ∨ msg.command = .data ∨ msg.command = .end)
    (hlives : ((s.dispatch n msg io).connections n).phase ≠ .ended) :
    (s.dispatch n msg io).Established circuitId ref nodeType (some (.next owner k)) ∧
      ((s.dispatch n msg io).connections n).phase = .reading ∧
      (s.dispatch n msg io).metrics.bytesForwarded = s.metrics.bytesForwarded ∧
      (s.dispatch n msg io).passedOn ref = s.passedOn ref + msg.data.length ∧
      s.miscounted (.arrives n msg io) = msg.data.length := by
  obtain ⟨flow, hflow, hflowKind, hflowNext⟩ := h.flow
  obtain ⟨c, hcircuit, rfl⟩ := Option.map_eq_some_iff.mp hflow
  obtain ⟨hop, hhop, hwrite⟩ := Option.map_eq_some_iff.mp hflowNext
  have hlookup : s.registry.lookup msg.circuitId = some ref := hid ▸ h.lookup
  have hnotExit : c.handler.nodeType ≠ .exit := fun heq => hkind (hflowKind.symm.trans heq)
  have hcost : s.miscounted (.arrives n msg io) = msg.data.length := by
    simp only [miscounted, hlookup, Option.bind_some, hcircuit, CircuitHandler.miscountedBytes]
    cases hhandler : c.handler with
    | entry | middle => rfl
    | exit h => rw [hhandler] at hnotExit; exact absurd rfl hnotExit
  rcases CircuitHandler.handleMessage_passes hnotExit hhop hcommand io (some (.prev n)) with
    ⟨e, hfails⟩ | ⟨handler', passed, hcall, hkind', hnext', hlength⟩
  · -- the loop would have ended
    refine absurd ?_ hlives
    simp only [dispatch, hlookup, hcircuit, handle, hfails, phase_setPhase]
  · let called := s.modifyCircuit ref fun c' => c'.setHandler handler'
    have hsame : SameFlow s called := sameFlow_setHandler s hcircuit hkind' (hnext'.trans hhop.symm)
    let written := called.modifyCircuit owner fun c' =>
      c'.modifyLink k fun link => { link with written := link.written ++ [passed] }
    have hdispatch : s.dispatch n msg io = written.setPhase n .reading := by
      simp only [dispatch, hlookup, hcircuit, handle, hcall, List.foldl_cons, List.foldl_nil,
        conclude_stream hcommand, deliver, hwrite]
      rfl
    have hcalled := h.congr hsame.registry hsame.flows
    have hwritten : written.Established circuitId ref nodeType (some (.next owner k)) :=
      hcalled.modifyCircuit owner (fun _ => rfl) (fun c' => by simp [HeldCircuit.modifyLink])
    have hphase := (sameFlow_setPhase written n .reading).flows
    obtain ⟨owner', k', linked, hsome, hlinked, hk⟩ := hcalled.next hkind
    cases hsome
    have hpushed : written.linkBytes owner k = called.linkBytes owner k + passed.data.length :=
      linkBytes_push passed hlinked hk
    -- what a circuit with a next hop has passed on is what is written there
    have hpassed : ∀ {node : RelayNode},
        node.Established circuitId ref nodeType (some (.next owner k)) →
        node.passedOn ref = node.linkBytes owner k := by
      intro node hnode
      obtain ⟨flow', hflow', -, hnext'⟩ := hnode.flow
      simp only [passedOn, hflow', hnext']
    rw [hdispatch]
    refine ⟨hwritten.congr rfl hphase, phase_setPhase .., rfl, ?_, hcost⟩
    rw [passedOn_congr hphase, hpassed hwritten, hpushed, linkBytes_congr hsame.flows, ← hpassed h,
      hlength]

/-! ### Exits -/

/-- A cell that an exit takes is passed on, and counted, or its answer is to be written. -/
theorem dispatch_exit {msg : Message} {io : RelayIo}
    (h : s.Established circuitId ref .exit nextHop) (hid : msg.circuitId = circuitId)
    (hcommand : msg.command = .begin ∨ msg.command = .data ∨ msg.command = .end)
    (hio : ∀ c, s.circuit? ref = some c → io.Suits ref c)
    (hlives : ((s.dispatch n msg io).connections n).phase ≠ .ended) :
    (s.dispatch n msg io).Established circuitId ref .exit nextHop ∧
      ((s.dispatch n msg io).connections n).phase.Serves ∧
      ∃ grown, (s.dispatch n msg io).passedOn ref = s.passedOn ref + grown ∧
        (s.dispatch n msg io).metrics.bytesForwarded +
            UInt64.ofNat ((s.dispatch n msg io).connections n).phase.owedBytes =
          s.metrics.bytesForwarded +
            UInt64.ofNat (grown + s.miscounted (.arrives n msg io)) := by
  obtain ⟨flow, hflow, hflowKind, hflowNext⟩ := h.flow
  obtain ⟨c, hcircuit, rfl⟩ := Option.map_eq_some_iff.mp hflow
  have hlookup : s.registry.lookup msg.circuitId = some ref := hid ▸ h.lookup
  obtain ⟨exit, hexit⟩ : ∃ exit, c.handler = .exit exit := by
    have hkind : c.handler.nodeType = .exit := hflowKind
    cases hhandler : c.handler with
    | entry | middle => rw [hhandler] at hkind; cases hkind
    | exit exit => exact ⟨exit, rfl⟩
  have hcost : s.miscounted (.arrives n msg io) = exit.refusalBytes io msg := by
    simp only [miscounted, hlookup, Option.bind_some, hcircuit, CircuitHandler.miscountedBytes,
      hexit]
  have hdispatch : s.dispatch n msg io = s.handle n ref msg
      (CircuitHandler.lift .exit (exit.handleMessage io (some (.prev n)) msg)) := by
    simp only [dispatch, hlookup, hcircuit, hexit, CircuitHandler.handleMessage]
  have hsame : ∀ h' : ExitCircuitHandler,
      SameFlow s (s.modifyCircuit ref fun c' => c'.setHandler (.exit h')) := by
    intro h'
    exact sameFlow_setHandler s hcircuit (by rw [hexit]; rfl) (by rw [hexit]; rfl)
  have houtcome := exit.outcome_handleMessage io n hcommand
  rw [hdispatch] at hlives
  rw [hcost, hdispatch]
  generalize exit.handleMessage io (some (.prev n)) msg = out at houtcome hlives ⊢
  cases houtcome with
  | fails e =>
      refine absurd ?_ hlives
      simp only [handle, CircuitHandler.lift, phase_setPhase]
  | @opens h' effects haside hserved =>
      simp only [handle, CircuitHandler.lift, conclude_stream hcommand]
      have hdone := ((hsame h').trans (sameFlow_effects n ref _ haside)).trans
        (sameFlow_setPhase _ n .reading)
      refine ⟨h.congr hdone.registry hdone.flows, by rw [phase_setPhase]; trivial, 0,
        passedOn_congr hdone.flows ref, ?_⟩
      rw [hdone.forwarded, phase_setPhase, hserved]
      rfl
  | @queues h' data hopen hserved =>
      simp only [handle, CircuitHandler.lift, conclude_stream hcommand, List.foldl_cons,
        List.foldl_nil, deliver]
      have haccepts : c.accepts msg.streamId = true :=
        (hio c hcircuit).destination msg.streamId ▸ hopen
      obtain ⟨hqueued, hpassed⟩ := queue_passes h' data h hcircuit hexit haccepts
      have hphase := (sameFlow_setPhase (((s.modifyCircuit ref fun c' =>
        c'.setHandler (.exit h')).modifyCircuit ref fun c' =>
          { c' with tasks := ExitTask.queueLast msg.streamId data c'.tasks }).count fun m =>
            m.addForwarded data.length) n .reading).flows
      refine ⟨hqueued.congr rfl hphase, by rw [phase_setPhase]; trivial, data.length, ?_, ?_⟩
      · rw [passedOn_congr hphase]
        exact hpassed
      · rw [phase_setPhase, hserved]
        exact UInt64.add_zero _
  | @answers h' effects response haside hlength =>
      simp only [handle, CircuitHandler.lift]
      have hdone := ((hsame h').trans (sameFlow_effects n ref _ haside)).trans
        (sameFlow_setPhase _ n (.replying msg.command msg.circuitId response))
      refine ⟨h.congr hdone.registry hdone.flows, ?_, 0, passedOn_congr hdone.flows ref, ?_⟩
      · rw [phase_setPhase]
        exact hcommand
      · rw [phase_setPhase, hdone.forwarded, Nat.zero_add, ← hlength]
        rfl

/-! ### Whole runs -/

/-- A step of a run that serves a circuit, if it is not one of the loop's. -/
theorem serving_background {e : RelayNodeEvent} (hstep : Step s e t) (hback : e.Background)
    (h : s.Established circuitId ref nodeType nextHop) :
    t.Established circuitId ref nodeType nextHop ∧
      (t.connections n).phase = (s.connections n).phase ∧
      t.passedOn ref = s.passedOn ref ∧
      t.metrics.bytesForwarded = s.metrics.bytesForwarded ∧ s.miscounted e = 0 := by
  obtain ⟨hsame, hphases⟩ := backgroundFrame_sameFlow.step hstep hback
  refine ⟨h.congr hsame.registry hsame.flows, hphases n, passedOn_congr hsame.flows ref,
    hsame.forwarded, ?_⟩
  cases e with
  | arrives => exact hback.elim
  | _ => rfl

/-- The counter of an entry or a middle relay stays where it was, while the cost of the run
is what the circuit has passed on. -/
theorem hop_run {owner : CircuitRef} {k wrong : Nat} {es : List RelayNodeEvent}
    (h : s.Established circuitId ref nodeType (some (.next owner k))) (hkind : nodeType ≠ .exit)
    (hstart : (s.connections n).phase = .reading)
    (hrun : (serving n circuitId).CostRun miscounted s es wrong t) :
    t.metrics.bytesForwarded = s.metrics.bytesForwarded ∧
      t.passedOn ref = s.passedOn ref + wrong := by
  have hinv := hrun.invariant (fun node cost =>
    node.Established circuitId ref nodeType (some (.next owner k)) ∧
      (node.connections n).phase = .reading ∧
      node.metrics.bytesForwarded = s.metrics.bytesForwarded ∧
      node.passedOn ref = s.passedOn ref + cost) ⟨h, hstart, rfl, rfl⟩ ?_
  · exact hinv.2.2
  · rintro u cost e v ⟨hu, hphase, hcount, hpassed⟩ ⟨hstep, hserves, hlives⟩
    by_cases hback : e.Background
    · obtain ⟨hv, hphase', hpassed', hcount', hcost⟩ :=
        serving_background (n := n) hstep hback hu
      exact ⟨hv, hphase'.trans hphase, hcount'.trans hcount, by rw [hpassed', hpassed, hcost]; rfl⟩
    · cases hstep with
      | arrives msg io hreading hlock hcommand hio =>
          obtain ⟨rfl, hid, hstream⟩ := hserves
          obtain ⟨hv, hphase', hcount', hpassed', hcost⟩ :=
            dispatch_passes hu hkind hid hstream hlives
          refine ⟨hv, hphase', hcount'.trans hcount, ?_⟩
          rw [hpassed', hpassed, hcost, Nat.add_assoc]
      | greets stream hgreeting =>
          obtain rfl : _ = n := hserves
          rw [hphase] at hgreeting
          cases hgreeting
      | replies stream hreplying =>
          obtain rfl : _ = n := hserves
          rw [hphase] at hreplying
          cases hreplying
      | creates | registers | hangsUp => exact hserves.elim
      | _ => exact absurd trivial hback

/-- The counter of an exit grows by what the circuit has passed on and by the cost of the
run, once the loop has written its answers. -/
theorem exit_run {wrong : Nat} {es : List RelayNodeEvent}
    (h : s.Established circuitId ref .exit nextHop)
    (hstart : (s.connections n).phase = .reading)
    (hrun : (serving n circuitId).CostRun miscounted s es wrong t) :
    ∃ grown, t.passedOn ref = s.passedOn ref + grown ∧
      t.metrics.bytesForwarded + UInt64.ofNat (t.connections n).phase.owedBytes =
        s.metrics.bytesForwarded + UInt64.ofNat (grown + wrong) := by
  have hinv := hrun.invariant (fun node cost =>
    node.Established circuitId ref .exit nextHop ∧ (node.connections n).phase.Serves ∧
      ∃ grown, node.passedOn ref = s.passedOn ref + grown ∧
        node.metrics.bytesForwarded + UInt64.ofNat (node.connections n).phase.owedBytes =
          s.metrics.bytesForwarded + UInt64.ofNat (grown + cost)) ?_ ?_
  · exact hinv.2.2
  · exact ⟨h, by rw [hstart]; trivial, 0, rfl, by rw [hstart]; rfl⟩
  · rintro u cost e v ⟨hu, hphase, grown, hpassed, hcount⟩ ⟨hstep, hserves, hlives⟩
    by_cases hback : e.Background
    · obtain ⟨hv, hphase', hpassed', hcount', hcost⟩ :=
        serving_background (n := n) hstep hback hu
      refine ⟨hv, hphase' ▸ hphase, grown, hpassed'.trans hpassed, ?_⟩
      rw [hcount', hphase', hcost]
      exact hcount
    · cases hstep with
      | arrives msg io hreading hlock hcommand hio =>
          obtain ⟨rfl, hid, hstream⟩ := hserves
          have hsuits : ∀ c, u.circuit? ref = some c → io.Suits ref c :=
            fun c hc => hio ref c (hid ▸ hu.lookup) hc
          obtain ⟨hv, hphase', more, hpassed', hcount'⟩ :=
            dispatch_exit hu hid hstream hsuits hlives
          rw [hreading] at hcount
          have hread : u.metrics.bytesForwarded =
              s.metrics.bytesForwarded + UInt64.ofNat (grown + cost) := by
            rw [← hcount]
            exact (UInt64.add_zero _).symm
          refine ⟨hv, hphase', grown + more, by rw [hpassed', hpassed, Nat.add_assoc], ?_⟩
          rw [hcount', hread, UInt64.add_assoc, ← UInt64.ofNat_add]
          congr 2
          omega
      | greets stream hgreeting =>
          obtain rfl : _ = n := hserves
          rw [hgreeting] at hphase
          exact hphase.elim
      | replies stream hreplying =>
          obtain rfl : _ = n := hserves
          rw [hreplying] at hphase hcount
          obtain ⟨hv, hphase', hpassed', hcount'⟩ := reply_counts hu hphase hlives
          refine ⟨hv, by rw [hphase']; trivial, grown, hpassed'.trans hpassed, ?_⟩
          rw [hcount', hphase']
          exact (UInt64.add_zero _).trans hcount
      | creates | registers | hangsUp => exact hserves.elim
      | _ => exact absurd trivial hback

/-- In every run a relay's count of the bytes it has forwarded grows by exactly what a circuit
passes on if and only if the payloads that an entry or a middle relay leaves out, or the ENDs
that an exit counts, are nothing to the counter: they add up to a multiple of its range. -/
theorem countsPassedOn_iff {es : List RelayNodeEvent}
    (h : s.Established circuitId ref nodeType nextHop)
    (hstart : (s.connections n).phase = .reading) (hend : (t.connections n).phase = .reading)
    (hrun : (serving n circuitId).Run s es t) :
    (∃ wrong, (serving n circuitId).CostRun miscounted s es wrong t) ∧
      ∀ wrong, (serving n circuitId).CostRun miscounted s es wrong t →
        (CountsPassedOn s t ref ↔ 2 ^ 64 ∣ wrong) := by
  refine ⟨hrun.exists_costRun miscounted, ?_⟩
  intro wrong hrun
  have hzero : ∀ m, UInt64.ofNat m = 0 ↔ 2 ^ 64 ∣ m := by
    intro m
    rw [UInt64.ofNat_eq_iff_mod_eq_toNat, Nat.dvd_iff_mod_eq_zero]
    rfl
  rw [← hzero]
  by_cases hkind : nodeType = .exit
  · subst hkind
    obtain ⟨grown, hpassed, hcount⟩ := exit_run h hstart hrun
    have hread : t.metrics.bytesForwarded =
        s.metrics.bytesForwarded + UInt64.ofNat grown + UInt64.ofNat wrong := by
      rw [hend] at hcount
      rw [UInt64.add_assoc, ← UInt64.ofNat_add, ← hcount]
      exact (UInt64.add_zero _).symm
    constructor
    · rintro ⟨grown', hpassed', hcount'⟩
      obtain rfl : grown' = grown := by omega
      rw [hread] at hcount'
      exact UInt64.add_eq_left.mp hcount'
    · intro hnothing
      exact ⟨grown, hpassed, by rw [hread, hnothing, UInt64.add_zero]⟩
  · obtain ⟨owner, k, -, hnext, -⟩ := h.next hkind
    subst hnext
    obtain ⟨hcount, hpassed⟩ := hop_run h hkind hstart hrun
    constructor
    · rintro ⟨grown, hpassed', hcount'⟩
      obtain rfl : grown = wrong := by omega
      rw [hcount] at hcount'
      exact UInt64.add_eq_left.mp hcount'.symm
    · intro hnothing
      exact ⟨wrong, hpassed, by rw [hcount, hnothing, UInt64.add_zero]⟩

end RelayNode

end

namespace RelayNode

section

open Reference

/-- A middle relay with one circuit, which has been extended to a next hop. -/
def passingRelay : RelayNode :=
  let key : SessionKey := ⟨FixedBytes.ofNat 16 1, FixedBytes.ofNat 16 2⟩
  let keypair := KeyPair.fromSecretBytes (FixedBytes.ofNat 32 5)
  let handler : MiddleCircuitHandler :=
    ⟨(CircuitContext.new 1).activate key, keypair, some (NextHop.new (.next ⟨0, 0⟩ 0))⟩
  let circuit : HeldCircuit :=
    ⟨.middle handler, none, [⟨[Message.create 1 (FixedBytes.ofNat 32 8).1], none⟩], []⟩
  let node := (start .middle keypair).modify 0 fun _ => ⟨.reading, [circuit], []⟩
  { node with registry := node.registry.insert 1 ⟨0, 0⟩ }

/-- An outside that takes every cell. -/
def openIo : RelayIo := RelayIo.offline (FixedBytes.ofNat 32 7)

/-- The relay passes a DATA cell of one byte on. -/
theorem passingRelay_data :
    let data : RelayNodeEvent := .arrives 0 (Message.new 1 1 .data [7]) openIo
    let after := passingRelay.dispatch 0 (Message.new 1 1 .data [7]) openIo
    passingRelay.Established 1 ⟨0, 0⟩ .middle (some (.next ⟨0, 0⟩ 0)) ∧
      (passingRelay.connections 0).phase = .reading ∧ (after.connections 0).phase = .reading ∧
      (serving 0 1).step passingRelay data after ∧ passingRelay.miscounted data = 1 := by
  intro data after
  have hreading : (after.connections 0).phase = .reading := rfl
  refine ⟨⟨rfl, ⟨_, rfl, rfl, rfl⟩, ?_⟩, rfl, hreading, ?_, rfl⟩
  · intro _
    exact ⟨⟨0, 0⟩, 0, _, rfl, rfl, by decide⟩
  · refine ⟨.arrives _ _ rfl rfl (by decide) ?_, ⟨rfl, rfl, Or.inr (Or.inl rfl)⟩, ?_⟩
    · intro ref c hlookup hcircuit
      have hfound : passingRelay.registry.lookup 1 = some ⟨0, 0⟩ := rfl
      rw [show (Message.new 1 1 .data [7]).circuitId = 1 from rfl, hfound] at hlookup
      cases hlookup
      cases hcircuit
      exact RelayIo.offline_suits _ _ rfl
    · rw [hreading]
      intro hended
      cases hended

/-- One byte that a middle relay passes on: the counter does not grow by it. -/
theorem countsPassedOn_iff_oneByte :
    ∃ before after : RelayNode, (before.connections 0).phase = .reading ∧
      (after.connections 0).phase = .reading ∧
      (CountsPassedOn before after ⟨0, 0⟩ ↔ 2 ^ 64 ∣ 1) := by
  obtain ⟨hestablished, hstart, hend, hstep, hcost⟩ := passingRelay_data
  obtain ⟨-, hcounts⟩ := countsPassedOn_iff hestablished hstart hend
    ((TransitionSystem.Run.nil _).snoc hstep)
  have hiff := hcounts _ ((TransitionSystem.CostRun.nil _).snoc hstep)
  rw [hcost] at hiff
  exact ⟨_, _, hstart, hend, hiff⟩

/-- A relay does not count the bytes that it passes on. -/
theorem not_countsPassedOn_oneByte :
    ¬ ∀ (s t : RelayNode) n circuitId ref nodeType nextHop es,
      s.Established circuitId ref nodeType nextHop → (s.connections n).phase = .reading →
      (t.connections n).phase = .reading → (serving n circuitId).Run s es t →
      CountsPassedOn s t ref := by
  intro hclaim
  obtain ⟨hestablished, hstart, hend, hstep, hcost⟩ := passingRelay_data
  obtain ⟨grown, hpassed, hcount⟩ := hclaim _ _ 0 1 ⟨0, 0⟩ .middle _ _ hestablished hstart hend
    ((TransitionSystem.Run.nil _).snoc hstep)
  obtain ⟨hsame, hone⟩ := hop_run hestablished (by decide) hstart
    ((TransitionSystem.CostRun.nil _).snoc hstep)
  obtain rfl : grown = 1 := by omega
  rw [hsame] at hcount
  exact absurd hcount (by decide)

end

end RelayNode

end NoPanic
