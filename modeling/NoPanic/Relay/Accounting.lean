/-
# Counting circuits

The heartbeat of a relay reports how many circuits the registry holds, how many were
created and how many destroyed. DESTROY closes a handler and is counted, but nothing
takes the circuit out of the registry. The three numbers therefore fit together
exactly as long as no DESTROY has reached a circuit, and never again afterwards.
-/

import NoPanic.Relay.Background
import NoPanic.Relay.Session
import NoPanic.Common.Reference
import Mathlib.Data.Finset.Card

namespace NoPanic

open NoPanic.Math

namespace HeldCircuit

/-- The state of a circuit. -/
def state (c : HeldCircuit) : RelayCircuitState := c.handler.state

@[simp]
theorem state_setHandler (c : HeldCircuit) (handler : CircuitHandler) :
    (c.setHandler handler).state = handler.state := rfl

@[simp]
theorem state_setShared (c : HeldCircuit) (state : ExitCryptoState) :
    (c.setShared state).state = c.state :=
  congrArg CircuitContext.state (c.handler.setShared_context state)

@[simp]
theorem state_modifyLink (c : HeldCircuit) (k : Nat) (f : NextHopLink → NextHopLink) :
    (c.modifyLink k f).state = c.state := rfl

@[simp]
theorem state_setReader (c : HeldCircuit) (k : Nat) (phase : BackwardPhase) :
    (c.setReader k phase).state = c.state := rfl

@[simp]
theorem state_modifyTask (c : HeldCircuit) (i : Nat) (f : ExitTask → ExitTask) :
    (c.modifyTask i f).state = c.state := rfl

end HeldCircuit

namespace ConnectionPhase

/-- The handler that waits to be registered, and is counted already. -/
def pending : ConnectionPhase → Option CircuitHandler
  | .registering handler => some handler
  | _ => none

/-- A phase without a CREATE. DESTROY is not answered. -/
def Plain : ConnectionPhase → Prop
  | .reading | .ended => True
  | .replying command _ _ => command ≠ .destroy
  | _ => False

/-- The handler of a CREATE that is not registered yet. -/
def offered : ConnectionPhase → Option CircuitHandler
  | .greeting handler _ | .registering handler => some handler
  | _ => none

theorem Plain.pending {phase : ConnectionPhase} (h : phase.Plain) : phase.pending = none := by
  cases phase with
  | greeting | registering => exact h.elim
  | _ => rfl

theorem Plain.offered {phase : ConnectionPhase} (h : phase.Plain) : phase.offered = none := by
  cases phase with
  | greeting | registering => exact h.elim
  | _ => rfl

end ConnectionPhase

namespace RelayNode

/-- The state of a circuit. -/
def state? (node : RelayNode) (ref : CircuitRef) : Option RelayCircuitState :=
  (node.circuit? ref).map HeldCircuit.state

/-- The number of circuits of the registry whose handler is not closed. -/
def activeCircuits (node : RelayNode) : Nat :=
  (node.registry.values.filter fun ref => node.state? ref != some .closed).length

/-- The heartbeat is right: the count is that of the circuits that are not closed, and the
difference of the two counters. -/
structure Accounted (node : RelayNode) : Prop where
  active : node.circuitCount = node.activeCircuits
  counters : UInt64.ofNat node.circuitCount =
    node.metrics.circuitsCreated - node.metrics.circuitsDestroyed

/-- No CREATE is counted and not registered. -/
def Settled (node : RelayNode) : Prop := ∀ n, (node.connections n).phase.pending = none

/-- Circuits are registered under ids that are not in use. -/
def FreshIds (node : RelayNode) : RelayNodeEvent → Prop
  | .registers n => ∀ handler, (node.connections n).phase = .registering handler →
      node.registry.lookup handler.circuitId = none
  | _ => True

/-- No DESTROY names a circuit that the registry holds. -/
def KeepsCircuits (node : RelayNode) : RelayNodeEvent → Prop
  | .arrives _ msg _ => msg.command = .destroy → node.registry.lookup msg.circuitId = none
  | _ => True

/-! ## Steps that the count does not see -/

/-- Neither the registry, nor the states of the circuits, nor the two counters have
changed, and no CREATE has come further. -/
structure Quiet (before after : RelayNode) : Prop where
  registry : after.registry = before.registry
  states : ∀ ref, after.state? ref = before.state? ref
  phases : ∀ n, (after.connections n).phase = (before.connections n).phase ∨
    (before.connections n).phase.pending = none ∧ (after.connections n).phase.Plain
  created : after.metrics.circuitsCreated = before.metrics.circuitsCreated
  destroyed : after.metrics.circuitsDestroyed = before.metrics.circuitsDestroyed

section

variable {n : Nat} {s s' s'' : RelayNode}

theorem Quiet.refl (s : RelayNode) : Quiet s s :=
  ⟨rfl, fun _ => rfl, fun _ => Or.inl rfl, rfl, rfl⟩

theorem Quiet.trans (first : Quiet s s') (second : Quiet s' s'') : Quiet s s'' := by
  refine ⟨second.registry.trans first.registry,
    fun ref => (second.states ref).trans (first.states ref), ?_,
    second.created.trans first.created, second.destroyed.trans first.destroyed⟩
  intro n
  rcases first.phases n with heq | ⟨hbefore, hmiddle⟩
  · rw [← heq]
    exact second.phases n
  · rcases second.phases n with heq' | ⟨-, hafter⟩
    · exact Or.inr ⟨hbefore, by rwa [heq']⟩
    · exact Or.inr ⟨hbefore, hafter⟩


/-- A change of a circuit that keeps its state. -/
theorem quiet_modifyCircuit (s : RelayNode) (ref : CircuitRef) {f : HeldCircuit → HeldCircuit}
    (hf : ∀ c, s.circuit? ref = some c → (f c).state = c.state) :
    Quiet s (s.modifyCircuit ref f) := by
  refine ⟨rfl, ?_, fun n => Or.inl (phase_modifyCircuit s ref f n), rfl, rfl⟩
  intro ref'
  rw [state?, circuit?_modifyCircuit, state?]
  split
  · next heq =>
    rw [heq]
    cases hc : s.circuit? ref with
    | none => rfl
    | some c => exact congrArg some (hf c hc)
  · rfl

theorem quiet_output (s : RelayNode) (n : Nat) (out : RelayOutput) : Quiet s (s.output n out) := by
  refine ⟨rfl, ?_, fun m => Or.inl (phase_output s n out m), rfl, rfl⟩
  intro ref
  rw [state?, circuit?_output, state?]

/-- A change of the other counters. -/
theorem quiet_count (s : RelayNode) {f : RelayMetrics → RelayMetrics}
    (hcreated : ∀ m, (f m).circuitsCreated = m.circuitsCreated)
    (hdestroyed : ∀ m, (f m).circuitsDestroyed = m.circuitsDestroyed) : Quiet s (s.count f) :=
  ⟨rfl, fun _ => rfl, fun _ => Or.inl rfl, hcreated _, hdestroyed _⟩

/-- A loop that moves between phases without a CREATE. -/
theorem quiet_setPhase (s : RelayNode) (n : Nat) {phase : ConnectionPhase}
    (hbefore : (s.connections n).phase.pending = none) (hafter : phase.Plain) :
    Quiet s (s.setPhase n phase) := by
  refine ⟨rfl, ?_, ?_, rfl, rfl⟩
  · intro ref
    rw [state?, circuit?_setPhase, state?]
  · intro m
    by_cases hm : m = n
    · subst hm
      exact Or.inr ⟨hbefore, by rwa [phase_setPhase]⟩
    · left
      rw [setPhase, connections_modify, if_neg hm]

/-- What was pending before a quiet step is pending after it. -/
theorem Quiet.pending (h : Quiet s s') (n : Nat) :
    (s'.connections n).phase.pending = (s.connections n).phase.pending := by
  rcases h.phases n with heq | ⟨hbefore, hafter⟩
  · rw [heq]
  · rw [hbefore, hafter.pending]

/-- What a handler does outside is not counted here. -/
theorem quiet_deliver (n : Nat) (ref : CircuitRef) (s : RelayNode) (effect : RelayEffect) :
    Quiet s (deliver n ref s effect) := by
  cases effect with
  | dial addr fingerprint conn =>
      cases conn with
      | prev m => exact .refl s
      | next owner k => exact quiet_modifyCircuit s owner fun _ _ => rfl
  | send conn msg =>
      cases conn with
      | prev m => exact quiet_output s m _
      | next owner k => exact quiet_modifyCircuit s owner fun _ _ => rfl
  | openStream streamId destination =>
      have hopened := quiet_modifyCircuit s ref
        (f := fun c => { c with tasks := c.tasks ++ [⟨streamId, n, .idle, 0, [], []⟩] })
        fun _ _ => rfl
      exact hopened.trans (quiet_count _ (f := RelayMetrics.addStream) (fun _ => rfl) fun _ => rfl)
  | queue streamId data =>
      have hqueued := quiet_modifyCircuit s ref
        (f := fun c => { c with tasks := ExitTask.queueLast streamId data c.tasks }) fun _ _ => rfl
      exact hqueued.trans
        (quiet_count _ (f := fun m => m.addForwarded data.length) (fun _ => rfl) fun _ => rfl)
  | recovered | sealed | attempt => exact .refl s

theorem quiet_effects (n : Nat) (ref : CircuitRef) (s : RelayNode) (effects : List RelayEffect) :
    Quiet s (effects.foldl (deliver n ref) s) :=
  List.foldlRecOn effects (deliver n ref) (.refl s) fun t hdone effect _ =>
    hdone.trans (quiet_deliver n ref t effect)

theorem quiet_spawnReader (s : RelayNode) (n : Nat) (circuitId : CircuitId) :
    Quiet s (s.spawnReader n circuitId) := by
  unfold spawnReader
  split
  · exact .refl s
  · next ref hlookup =>
    split
    · exact .refl s
    · next c hcircuit =>
      split
      · next handler owner k htake =>
        have hcontext := c.handler.takeReader_context
        rw [htake] at hcontext
        refine (quiet_modifyCircuit s ref ?_).trans (quiet_modifyCircuit _ owner fun _ _ => rfl)
        intro c' hc'
        rw [hcircuit] at hc'
        cases hc'
        exact congrArg CircuitContext.state hcontext
      · exact .refl s

/-- The end of a round that was not about DESTROY. -/
theorem quiet_conclude {command : MessageCommand} (circuitId : CircuitId)
    (hbefore : (s.connections n).phase.pending = none) (hcommand : command ≠ .destroy) :
    Quiet s (s.conclude n command circuitId) := by
  have hphase := quiet_setPhase s n hbefore (show (ConnectionPhase.reading).Plain from trivial)
  cases command with
  | destroy => exact absurd rfl hcommand
  | extend | extended => exact hphase.trans (quiet_spawnReader _ n circuitId)
  | _ => exact hphase

/-- A call for any other cell than CREATE and DESTROY. -/
theorem quiet_handle {ref : CircuitRef} {c : HeldCircuit} {msg : Message}
    {out : Handled CircuitHandler (Option Message)} (hcircuit : s.circuit? ref = some c)
    (hphase : (s.connections n).phase = .reading) (hdestroy : msg.command ≠ .destroy)
    (hstate : out.handler.state = c.state) : Quiet s (s.handle n ref msg out) := by
  have hhandler : Quiet s (s.modifyCircuit ref fun c => c.setHandler out.handler) := by
    apply quiet_modifyCircuit
    intro c' hc'
    rw [hcircuit] at hc'
    cases hc'
    exact hstate
  have hdone := hhandler.trans (quiet_effects n ref _ out.effects)
  have hbefore := hdone.pending n
  rw [hphase] at hbefore
  unfold handle
  match hresult : out.result with
  | .error e => exact hdone.trans (quiet_setPhase _ n hbefore trivial)
  | .ok none => exact hdone.trans (quiet_conclude msg.circuitId hbefore hdestroy)
  | .ok (some response) =>
      have hwait := hdone.trans (quiet_setPhase _ n hbefore
        (show (ConnectionPhase.replying msg.command msg.circuitId response).Plain from hdestroy))
      exact ⟨hwait.registry, hwait.states, hwait.phases, hwait.created, hwait.destroyed⟩

/-- Writing the answer to a cell other than DESTROY. -/
theorem quiet_reply {command : MessageCommand} {circuitId : CircuitId} {response : Message}
    (stream : Except String Unit)
    (hphase : (s.connections n).phase = .replying command circuitId response)
    (hcommand : command ≠ .destroy) : Quiet s (s.reply n command circuitId response stream) := by
  have hbefore : (s.connections n).phase.pending = none := by rw [hphase]; rfl
  unfold reply
  split
  · have hend := quiet_setPhase s n hbefore (show (ConnectionPhase.ended).Plain from trivial)
    exact ⟨hend.registry, hend.states, hend.phases, hend.created, hend.destroyed⟩
  · have hout := quiet_output s n (.cell response)
    have hcount :
        Quiet s ((s.output n (.cell response)).countReply command response.data.length) := by
      cases command with
      | extend | extended | destroy => exact hout
      | _ => exact hout.trans (quiet_count _ (f := fun m => m.addForwarded response.data.length)
          (fun _ => rfl) fun _ => rfl)
    have hdone := hcount.trans
      (quiet_conclude circuitId ((hcount.pending n).trans hbefore) hcommand)
    exact ⟨hdone.registry, hdone.states, hdone.phases, hdone.created, hdone.destroyed⟩

section

variable [Primitives] [AddrText]

/-- What the readers and the streams do is not counted here. -/
theorem backgroundFrame_quiet : BackgroundFrame Quiet where
  refl := .refl
  trans first second := first.trans second
  output := quiet_output
  addReceived s _ := quiet_count s (fun _ => rfl) fun _ => rfl
  setReader s ref _ _ := quiet_modifyCircuit s ref fun _ _ => rfl
  calls := by
    intro s ref c hcircuit msg
    apply quiet_modifyCircuit
    intro c' hc'
    rw [hcircuit] at hc'
    cases hc'
    exact (c.handler.handleBackwardRelay_session msg).state
  setShared s ref _ := quiet_modifyCircuit s ref fun c _ => c.state_setShared _
  modifyTask s ref _ _ _ := quiet_modifyCircuit s ref fun _ _ => rfl

/-! ## What a step does to the count -/

/-- What a step can do to the numbers of a heartbeat. -/
inductive Move (s : RelayNode) : RelayNodeEvent → RelayNode → Prop
  | quiet {e : RelayNodeEvent} {s' : RelayNode} (h : Quiet s s') : Move s e s'
  | /-- A CREATE is handled. -/
    offers {e : RelayNodeEvent} {n : Nat} {handler : CircuitHandler} {response : Message}
      (hphase : (s.connections n).phase = .reading) (hstate : handler.state = .active) :
      Move s e (s.setPhase n (.greeting handler response))
  | /-- CREATED is written. -/
    counts {e : RelayNodeEvent} {n : Nat} {handler : CircuitHandler} {response : Message}
      (hphase : (s.connections n).phase = .greeting handler response) :
      Move s e (((s.output n (.cell response)).setPhase n (.registering handler)).count
        RelayMetrics.addCreated)
  | registers {n : Nat} {handler : CircuitHandler}
      (hphase : (s.connections n).phase = .registering handler) :
      Move s (.registers n) (s.register n handler)
  | /-- DESTROY reaches a circuit. -/
    destroys {n : Nat} {msg : Message} {io : RelayIo} {ref : CircuitRef} {c : HeldCircuit}
      (hphase : (s.connections n).phase = .reading) (hcommand : msg.command = .destroy)
      (hlookup : s.registry.lookup msg.circuitId = some ref)
      (hcircuit : s.circuit? ref = some c) :
      Move s (.arrives n msg io)
        (((s.modifyCircuit ref fun c' => c'.setHandler c.handler.close).setPhase n .reading).count
          RelayMetrics.addDestroyed)

/-- A new handler that answers a CREATE is active. -/
theorem create_state (nodeType : NodeType) (circuitId : CircuitId) (keypair : KeyPair)
    (io : RelayIo) (prevHop : Option ConnId) {msg response : Message}
    (hcommand : msg.command = .create)
    (hresult : ((CircuitHandler.new nodeType circuitId keypair).handleMessage io prevHop msg).result
      = .ok (some response)) :
    ((CircuitHandler.new nodeType circuitId keypair).handleMessage io prevHop msg).handler.state
      = .active := by
  have hhop : ∀ h : HopHandler, (HopHandler.handleCreate h io msg).result = .ok (some response) →
      (HopHandler.handleCreate h io msg).handler.context.state = .active := by
    intro h
    unfold HopHandler.handleCreate
    split
    · exact fun heq => by cases heq
    · exact fun _ => rfl
  cases nodeType with
  | entry =>
      simp only [CircuitHandler.new, CircuitHandler.handleMessage, CircuitHandler.lift,
        EntryCircuitHandler.handleMessage, hcommand] at hresult ⊢
      exact hhop _ hresult
  | middle =>
      simp only [CircuitHandler.new, CircuitHandler.handleMessage, CircuitHandler.lift,
        MiddleCircuitHandler.handleMessage, hcommand] at hresult ⊢
      exact hhop _ hresult
  | exit =>
      simp only [CircuitHandler.new, CircuitHandler.handleMessage, CircuitHandler.lift,
        ExitCircuitHandler.handleMessage, hcommand] at hresult ⊢
      unfold ExitCircuitHandler.handleCreate at hresult ⊢
      split
      · next heq =>
        rw [heq] at hresult
        cases hresult
      · rfl

/-- Every step is one of these. -/
theorem step_move {e : RelayNodeEvent}
    (hreplies : ∀ n command circuitId response,
      (s.connections n).phase = .replying command circuitId response → command ≠ .destroy)
    (hstep : Step s e s') : Move s e s' := by
  have hback := backgroundFrame_quiet.step hstep
  cases hstep with
  | @arrives n msg io hphase hlock hcommand hio =>
      cases hlookup : s.registry.lookup msg.circuitId with
      | none =>
          simp only [dispatch, hlookup]
          exact .quiet (quiet_setPhase s n (by rw [hphase]; rfl) trivial)
      | some ref =>
          cases hcircuit : s.circuit? ref with
          | none =>
              simp only [dispatch, hlookup, hcircuit]
              exact .quiet (.refl s)
          | some c =>
              by_cases hdestroy : msg.command = .destroy
              · rw [dispatch_destroy hdestroy hlookup hcircuit]
                exact .destroys hphase hdestroy hlookup hcircuit
              · simp only [dispatch, hlookup, hcircuit]
                refine .quiet (quiet_handle hcircuit hphase hdestroy ?_)
                exact (c.handler.handleMessage_session _ hcommand hdestroy).state
  | @creates n msg io hphase hcommand =>
      unfold create
      dsimp only
      split
      · exact .quiet (quiet_setPhase s n (by rw [hphase]; rfl) trivial)
      · exact .quiet (.refl s)
      · next response hresult => exact .offers hphase (create_state _ _ _ io _ hcommand hresult)
  | @greets n handler response stream hphase =>
      unfold greet
      split
      · exact .quiet (quiet_setPhase s n (by rw [hphase]; rfl) trivial)
      · exact .counts hphase
  | registers hphase hlock => exact .registers hphase
  | @replies n command circuitId response stream hphase =>
      exact .quiet (quiet_reply stream hphase (hreplies n command circuitId response hphase))
  | @hangsUp n hphase => exact .quiet (quiet_setPhase s n (by rw [hphase]; rfl) trivial)
  | receives | loses | relays | closes | reads | emits | forwards | stops =>
      exact .quiet (hback trivial)

/-! ## Whole runs -/

/-- What the counters say in every run in which ids are fresh. -/
structure Ledger (s : RelayNode) : Prop where
  phases : ∀ n, (s.connections n).phase.Plain ∨
    ∃ handler, (s.connections n).phase.offered = some handler ∧ handler.state = .active
  held : ∀ id ref, s.registry.lookup id = some ref → s.circuit? ref ≠ none
  counted : ∃ waiting : Finset Nat,
    (∀ n, n ∈ waiting ↔ (s.connections n).phase.pending ≠ none) ∧
      s.metrics.circuitsCreated = UInt64.ofNat (s.circuitCount + waiting.card)

/-- Some circuit of the registry is closed. -/
def SomeClosed (s : RelayNode) : Prop :=
  ∃ id ref, s.registry.lookup id = some ref ∧ s.state? ref = some .closed

end

/-- The circuits after one has been registered. -/
theorem circuit?_register (s : RelayNode) (n : Nat) (handler : CircuitHandler) (ref : CircuitRef) :
    (s.register n handler).circuit? ref =
      if ref = ⟨n, (s.connections n).circuits.length⟩ then some (HeldCircuit.admitted handler)
      else s.circuit? ref := by
  obtain ⟨m, i⟩ := ref
  simp only [register, circuit?, connections_modify, CircuitRef.mk.injEq]
  by_cases hm : m = n
  · subst hm
    rw [if_pos rfl]
    by_cases hi : i = (s.connections m).circuits.length
    · subst hi
      simp
    · rw [if_neg fun h => hi h.2, List.getElem?_append]
      split
      · rfl
      · rw [List.getElem?_eq_none (by simp; omega), List.getElem?_eq_none (by omega)]
  · rw [if_neg hm, if_neg fun h => hm h.1]

/-- A circuit that exists has not the number of the next one. -/
theorem ne_of_circuit? {ref : CircuitRef} (hcircuit : s.circuit? ref ≠ none) :
    ref ≠ ⟨n, (s.connections n).circuits.length⟩ := by
  rintro rfl
  exact hcircuit (List.getElem?_eq_none (Nat.le_refl _))

/-- The number of circuits of the registry. -/
theorem circuitCount_eq (s : RelayNode) : s.circuitCount = s.registry.values.length := by
  rw [circuitCount, HashMap.values, List.length_map]

/-- With a closed circuit in the registry the count is too large. -/
theorem SomeClosed.not_accounted (h : s.SomeClosed) : ¬ s.Accounted := by
  intro hacc
  obtain ⟨id, ref, hlookup, hclosed⟩ := h
  have hlt : s.activeCircuits < s.registry.values.length := by
    have hmem : ref ∈ s.registry.values := HashMap.mem_values.mpr ⟨id, hlookup⟩
    exact List.length_filter_lt_length_iff_exists.mpr ⟨ref, hmem, by simp [hclosed]⟩
  rw [← circuitCount_eq, hacc.active] at hlt
  exact Nat.lt_irrefl _ hlt

/-- Without one it is right. -/
theorem active_of_not_someClosed (h : ¬ s.SomeClosed) : s.circuitCount = s.activeCircuits := by
  rw [circuitCount_eq, activeCircuits, List.filter_eq_self.mpr]
  intro ref hmem
  obtain ⟨id, hlookup⟩ := HashMap.mem_values.mp hmem
  rw [bne_iff_ne]
  exact fun hclosed => h ⟨id, ref, hlookup, hclosed⟩

/-- DESTROY is not answered. -/
theorem Ledger.replies (h : s.Ledger) : ∀ n command circuitId response,
    (s.connections n).phase = .replying command circuitId response → command ≠ .destroy := by
  intro n command circuitId response hphase
  rcases h.phases n with hplain | ⟨handler, hoffered, -⟩
  · rwa [hphase] at hplain
  · rw [hphase] at hoffered
    cases hoffered

/-- The ledger of a relay that has just started. -/
theorem ledger_start (nodeType : NodeType) (keypair : KeyPair) :
    (start nodeType keypair).Ledger := by
  refine ⟨fun n => Or.inl trivial, ?_, ∅, ?_, rfl⟩
  · intro id ref hlookup
    simp [start] at hlookup
  · intro n
    simp [start, ConnectionPhase.pending]

/-- Where only one loop changes its phase, only that phase has to be looked at. -/
theorem Ledger.phases_of (h : s.Ledger)
    (hother : ∀ m, m ≠ n → (s'.connections m).phase = (s.connections m).phase)
    (hown : (s'.connections n).phase.Plain ∨
      ∃ handler, (s'.connections n).phase.offered = some handler ∧ handler.state = .active)
    (m : Nat) :
    (s'.connections m).phase.Plain ∨
      ∃ handler, (s'.connections m).phase.offered = some handler ∧ handler.state = .active := by
  by_cases hm : m = n
  · rw [hm]
    exact hown
  · rw [hother m hm]
    exact h.phases m

/-- Where only one loop changes its phase, only that loop begins or ends to wait. -/
theorem waiting_of {waiting waiting' : Finset Nat}
    (hwaiting : ∀ m, m ∈ waiting ↔ (s.connections m).phase.pending ≠ none)
    (hother : ∀ m, m ≠ n → (s'.connections m).phase = (s.connections m).phase)
    (hsame : ∀ m, m ≠ n → (m ∈ waiting' ↔ m ∈ waiting))
    (hown : n ∈ waiting' ↔ (s'.connections n).phase.pending ≠ none) (m : Nat) :
    m ∈ waiting' ↔ (s'.connections m).phase.pending ≠ none := by
  by_cases hm : m = n
  · rw [hm]
    exact hown
  · rw [hsame m hm, hwaiting, hother m hm]

/-- A step that the numbers of a heartbeat do not notice. -/
theorem Ledger.quiet (h : s.Ledger) (hquiet : Quiet s s') : s'.Ledger := by
  obtain ⟨waiting, hwaiting, hcreated⟩ := h.counted
  refine ⟨?_, ?_, waiting, ?_, ?_⟩
  · intro n
    rcases hquiet.phases n with heq | ⟨-, hplain⟩
    · rw [heq]
      exact h.phases n
    · exact Or.inl hplain
  · intro id ref hlookup hnone
    have hstate := hquiet.states ref
    rw [hquiet.registry] at hlookup
    rw [state?, state?, hnone, Option.map_none, eq_comm, Option.map_eq_none_iff] at hstate
    exact h.held id ref hlookup hstate
  · intro n
    rw [hquiet.pending]
    exact hwaiting n
  · rw [hquiet.created, circuitCount, hquiet.registry]
    exact hcreated

/-- A written CREATED is counted, and its loop waits to register the circuit. -/
theorem Ledger.counts (h : s.Ledger) {handler : CircuitHandler} {response : Message}
    (hphase : (s.connections n).phase = .greeting handler response) :
    (((s.output n (.cell response)).setPhase n (.registering handler)).count
      RelayMetrics.addCreated).Ledger := by
  obtain ⟨waiting, hwaiting, hcreated⟩ := h.counted
  have hstate : handler.state = .active := by
    rcases h.phases n with hplain | ⟨handler', hoffered, hstate⟩
    · rw [hphase] at hplain
      exact hplain.elim
    · rw [hphase] at hoffered
      cases hoffered
      exact hstate
  have hnew : n ∉ waiting := by
    rw [hwaiting, hphase]
    exact fun hne => hne rfl
  have hother : ∀ m, m ≠ n →
      ((((s.output n (.cell response)).setPhase n (.registering handler)).count
        RelayMetrics.addCreated).connections m).phase = (s.connections m).phase := by
    intro m hm
    rw [phase_count, setPhase, connections_modify, if_neg hm, phase_output]
  refine ⟨h.phases_of hother ?_, ?_, insert n waiting, waiting_of hwaiting hother ?_ ?_, ?_⟩
  · rw [phase_count, phase_setPhase]
    exact Or.inr ⟨handler, rfl, hstate⟩
  · intro id ref hlookup
    rw [circuit?_count, circuit?_setPhase, circuit?_output]
    exact h.held id ref hlookup
  · intro m hm
    simp [hm]
  · rw [phase_count, phase_setPhase]
    simp [ConnectionPhase.pending]
  · rw [Finset.card_insert_of_notMem hnew, ← Nat.add_assoc]
    show s.metrics.circuitsCreated + 1 = _
    rw [hcreated]
    simp [circuitCount, count, setPhase, output, modify]

/-- A circuit with a fresh id is registered, and its loop waits no longer. -/
theorem Ledger.registers (h : s.Ledger) {handler : CircuitHandler}
    (hphase : (s.connections n).phase = .registering handler)
    (hnone : s.registry.lookup handler.circuitId = none) : (s.register n handler).Ledger := by
  obtain ⟨waiting, hwaiting, hcreated⟩ := h.counted
  have hmem : n ∈ waiting := by
    rw [hwaiting, hphase]
    simp [ConnectionPhase.pending]
  have hread : ((s.register n handler).connections n).phase = .reading := by
    simp [register, connections_modify]
  have hother : ∀ m, m ≠ n →
      ((s.register n handler).connections m).phase = (s.connections m).phase := by
    intro m hm
    simp [register, connections_modify, hm]
  refine ⟨h.phases_of hother ?_, ?_, waiting.erase n, waiting_of hwaiting hother ?_ ?_, ?_⟩
  · rw [hread]
    exact Or.inl trivial
  · intro id ref hlookup
    rw [circuit?_register]
    split
    · simp
    · next hne =>
      rw [register, HashMap.lookup_insert_eq] at hlookup
      split at hlookup
      · exact absurd (Option.some.inj hlookup).symm hne
      · exact h.held id ref hlookup
  · intro m hm
    rw [Finset.mem_erase]
    simp [hm]
  · rw [hread]
    simp [ConnectionPhase.pending]
  · have hcount : (s.register n handler).circuitCount = s.circuitCount + 1 := by
      rw [circuitCount_eq, circuitCount_eq]
      exact congrArg List.length (HashMap.values_insert_of_lookup_none _ hnone)
    have hcard := Finset.card_erase_add_one hmem
    rw [hcount, Nat.add_assoc, Nat.add_comm 1, hcard]
    exact hcreated

section

variable [Primitives] [AddrText] {e : RelayNodeEvent}

/-- Every step with a fresh id keeps the ledger. -/
theorem Ledger.step (h : s.Ledger) (hfresh : s.FreshIds e) (hstep : Step s e s') : s'.Ledger := by
  obtain ⟨waiting, hwaiting, hcreated⟩ := h.counted
  cases step_move h.replies hstep with
  | quiet hquiet => exact h.quiet hquiet
  | @offers _ n handler response hphase hstate =>
      have hother : ∀ m, m ≠ n →
          ((s.setPhase n (.greeting handler response)).connections m).phase =
            (s.connections m).phase := by
        intro m hm
        rw [setPhase, connections_modify, if_neg hm]
      refine ⟨h.phases_of hother ?_, ?_, waiting,
        waiting_of hwaiting hother (fun _ _ => Iff.rfl) ?_, hcreated⟩
      · rw [phase_setPhase]
        exact Or.inr ⟨handler, rfl, hstate⟩
      · intro id ref hlookup
        rw [circuit?_setPhase]
        exact h.held id ref hlookup
      · rw [phase_setPhase, hwaiting, hphase]
        exact Iff.rfl
  | counts hphase => exact h.counts hphase
  | registers hphase => exact h.registers hphase (hfresh _ hphase)
  | @destroys n msg io ref c hphase hcommand hlookup hcircuit =>
      have hother : ∀ m, m ≠ n →
          ((((s.modifyCircuit ref fun c' => c'.setHandler c.handler.close).setPhase n
            .reading).count RelayMetrics.addDestroyed).connections m).phase =
            (s.connections m).phase := by
        intro m hm
        rw [phase_count, setPhase, connections_modify, if_neg hm, phase_modifyCircuit]
      refine ⟨h.phases_of hother ?_, ?_, waiting,
        waiting_of hwaiting hother (fun _ _ => Iff.rfl) ?_, hcreated⟩
      · rw [phase_count, phase_setPhase]
        exact Or.inl trivial
      · intro id ref' hlookup'
        rw [circuit?_count, circuit?_setPhase, circuit?_modifyCircuit]
        split
        · simp [hcircuit]
        · exact h.held id ref' hlookup'
      · rw [phase_count, phase_setPhase, hwaiting, hphase]

/-- A closed circuit of the registry stays there, and stays closed. -/
theorem SomeClosed.step (h : s.SomeClosed) (hledger : s.Ledger) (hfresh : s.FreshIds e)
    (hstep : Step s e s') : s'.SomeClosed := by
  obtain ⟨id, ref, hlookup, hclosed⟩ := h
  cases step_move hledger.replies hstep with
  | quiet hquiet => exact ⟨id, ref, by rwa [hquiet.registry], by rwa [hquiet.states]⟩
  | offers hphase hstate => exact ⟨id, ref, hlookup, by rwa [state?, circuit?_setPhase]⟩
  | counts hphase =>
      exact ⟨id, ref, hlookup, by rwa [state?, circuit?_count, circuit?_setPhase, circuit?_output]⟩
  | @registers n handler hphase =>
      refine ⟨id, ref, ?_, ?_⟩
      · rw [register, HashMap.lookup_insert_eq, if_neg]
        · exact hlookup
        · rintro rfl
          rw [hfresh handler hphase] at hlookup
          cases hlookup
      · rwa [state?, circuit?_register, if_neg (ne_of_circuit? (hledger.held id ref hlookup))]
  | @destroys n msg io ref' c hphase hcommand hlookup' hcircuit =>
      refine ⟨id, ref, hlookup, ?_⟩
      rw [state?, circuit?_count, circuit?_setPhase, circuit?_modifyCircuit]
      split
      · rw [hcircuit]
        exact congrArg some c.handler.close_state
      · exact hclosed

/-- A step that reaches no circuit with DESTROY closes none and counts none. -/
theorem not_someClosed_step (h : ¬ s.SomeClosed) (hledger : s.Ledger) (hfresh : s.FreshIds e)
    (hkeeps : s.KeepsCircuits e) (hstep : Step s e s') :
    ¬ s'.SomeClosed ∧ s'.metrics.circuitsDestroyed = s.metrics.circuitsDestroyed := by
  cases step_move hledger.replies hstep with
  | quiet hquiet =>
      refine ⟨?_, hquiet.destroyed⟩
      rintro ⟨id, ref, hlookup, hclosed⟩
      rw [hquiet.registry] at hlookup
      rw [hquiet.states] at hclosed
      exact h ⟨id, ref, hlookup, hclosed⟩
  | offers hphase hstate =>
      refine ⟨?_, rfl⟩
      rintro ⟨id, ref, hlookup, hclosed⟩
      rw [state?, circuit?_setPhase] at hclosed
      exact h ⟨id, ref, hlookup, hclosed⟩
  | counts hphase =>
      refine ⟨?_, rfl⟩
      rintro ⟨id, ref, hlookup, hclosed⟩
      rw [state?, circuit?_count, circuit?_setPhase, circuit?_output] at hclosed
      exact h ⟨id, ref, hlookup, hclosed⟩
  | @registers n handler hphase =>
      refine ⟨?_, rfl⟩
      rintro ⟨id, ref, hlookup, hclosed⟩
      rw [state?, circuit?_register] at hclosed
      split at hclosed
      · -- the new circuit is active
        rcases hledger.phases n with hplain | ⟨handler', hoffered, hstate⟩
        · rw [hphase] at hplain
          exact hplain.elim
        · rw [hphase] at hoffered
          cases hoffered
          have hnew : handler.state = .closed := Option.some.inj hclosed
          rw [hstate] at hnew
          cases hnew
      · next hne =>
        rw [register, HashMap.lookup_insert_eq] at hlookup
        split at hlookup
        · exact absurd (Option.some.inj hlookup).symm hne
        · exact h ⟨id, ref, hlookup, hclosed⟩
  | destroys hphase hcommand hlookup hcircuit =>
      rw [hkeeps hcommand] at hlookup
      cases hlookup

/-- A step that reaches a circuit with DESTROY leaves it closed in the registry. -/
theorem someClosed_of_destroy (hledger : s.Ledger) (hkeeps : ¬ s.KeepsCircuits e)
    (hstep : Step s e s') : s'.SomeClosed := by
  cases hstep with
  | @arrives n msg io hphase hlock hcommand hio =>
      simp only [KeepsCircuits, Classical.not_imp] at hkeeps
      obtain ⟨hdestroy, hheld⟩ := hkeeps
      obtain ⟨ref, hlookup⟩ := Option.ne_none_iff_exists'.mp hheld
      obtain ⟨c, hcircuit⟩ := Option.ne_none_iff_exists'.mp (hledger.held _ ref hlookup)
      rw [dispatch_destroy hdestroy hlookup hcircuit]
      refine ⟨msg.circuitId, ref, hlookup, ?_⟩
      rw [state?, circuit?_count, circuit?_setPhase, circuit?_modifyCircuit, if_pos rfl, hcircuit]
      exact congrArg some c.handler.close_state
  | _ => exact absurd trivial hkeeps

variable {nodeType : NodeType} {keypair : KeyPair} {es : List RelayNodeEvent}

/-- The ledger holds in every run with fresh ids. -/
theorem ledger_of_run
    (hrun : ((system nodeType keypair).restrict FreshIds).Run (start nodeType keypair) es s) :
    s.Ledger := by
  apply hrun.invariant Ledger (ledger_start nodeType keypair)
  rintro s e s' hledger ⟨hfresh, hstep⟩
  exact hledger.step hfresh hstep

/-- A run in which no DESTROY reaches a circuit is one with fresh ids. -/
theorem run_fresh
    (hrun : ((system nodeType keypair).restrict fun s e =>
      s.FreshIds e ∧ s.KeepsCircuits e).Run (start nodeType keypair) es s) :
    ((system nodeType keypair).restrict FreshIds).Run (start nodeType keypair) es s := by
  refine TransitionSystem.Run.map (fun s => s) ?_ hrun
  rintro s e t ⟨⟨hfresh, -⟩, hstep⟩
  exact ⟨hfresh, hstep⟩

/-- In a run with fresh ids, the heartbeat is right between the CREATEs if and only if no
DESTROY has reached a circuit. -/
theorem accounted_iff
    (hrun : ((system nodeType keypair).restrict FreshIds).Run (start nodeType keypair) es s)
    (hsettled : s.Settled) :
    s.Accounted ↔ ((system nodeType keypair).restrict fun s e =>
      s.FreshIds e ∧ s.KeepsCircuits e).Run (start nodeType keypair) es s := by
  have hsplit : ((system nodeType keypair).restrict fun s e =>
      s.FreshIds e ∧ s.KeepsCircuits e).Run (start nodeType keypair) es s ∨ s.SomeClosed := by
    clear hsettled
    induction hrun with
    | nil => exact Or.inl (.nil _)
    | @snoc s es s' e hrun hlast ih =>
        have hledger := ledger_of_run hrun
        rcases ih with hkept | hclosed
        · by_cases hkeeps : s.KeepsCircuits e
          · exact Or.inl (hkept.snoc ⟨⟨hlast.1, hkeeps⟩, hlast.2⟩)
          · exact Or.inr (someClosed_of_destroy hledger hkeeps hlast.2)
        · exact Or.inr (hclosed.step hledger hlast.1 hlast.2)
  constructor
  · intro hacc
    exact hsplit.resolve_right fun hclosed => hclosed.not_accounted hacc
  · intro hkept
    have hinv : s.Ledger ∧ ¬ s.SomeClosed ∧ s.metrics.circuitsDestroyed = 0 := by
      refine hkept.invariant
        (fun s => s.Ledger ∧ ¬ s.SomeClosed ∧ s.metrics.circuitsDestroyed = 0) ?_ ?_
      · refine ⟨ledger_start nodeType keypair, ?_, rfl⟩
        rintro ⟨id, ref, hlookup, -⟩
        simp [start] at hlookup
      · rintro s e s' ⟨hledger, hopen, hzero⟩ ⟨⟨hfresh, hkeeps⟩, hstep⟩
        have hnext := not_someClosed_step hopen hledger hfresh hkeeps hstep
        exact ⟨hledger.step hfresh hstep, hnext.1, hnext.2.trans hzero⟩
    obtain ⟨hledger, hopen, hzero⟩ := hinv
    obtain ⟨waiting, hwaiting, hcreated⟩ := hledger.counted
    have hempty : waiting = ∅ := by
      apply Finset.eq_empty_of_forall_notMem
      intro n hmem
      exact (hwaiting n).mp hmem (hsettled n)
    refine ⟨active_of_not_someClosed hopen, ?_⟩
    rw [hzero, hcreated, hempty]
    simp

end

end

/-! ## One circuit -/

section

open Reference

/-- A relay after one CREATE, with nothing else done. -/
theorem run_oneCircuit (keypair : KeyPair) :
    ∃ handler s, ((system .middle keypair).restrict fun s e => s.FreshIds e ∧ s.KeepsCircuits e).Run
        (start .middle keypair)
        [.creates 0 (Message.create 1 (FixedBytes.ofNat 32 8).1) (.offline (FixedBytes.ofNat 32 7)),
          .writes 0 (.ok ()), .registers 0] s ∧
      s.Settled ∧ Admitted (start .middle keypair) 0 1 handler s := by
  obtain ⟨handler, key, a, b, s, hcreate, hwrite, hphase, hregistry, hregister, -, hadmitted⟩ :=
    create_steps (start .middle keypair) 0 1 (.offline (FixedBytes.ofNat 32 7))
      (FixedBytes.ofNat 32 8) rfl rfl
  let kept := (system .middle keypair).restrict fun s e => s.FreshIds e ∧ s.KeepsCircuits e
  have hnil : kept.Run (start .middle keypair) [] (start .middle keypair) := .nil _
  have hfresh : b.FreshIds (.registers 0) := by
    intro handler' hphase'
    rw [hregistry]
    rfl
  have hfirst : kept.step (start .middle keypair)
      (.creates 0 (Message.create 1 (FixedBytes.ofNat 32 8).1) (.offline (FixedBytes.ofNat 32 7)))
      a := ⟨⟨trivial, trivial⟩, hcreate⟩
  have hsecond : kept.step a (.writes 0 (.ok ())) b := ⟨⟨trivial, trivial⟩, hwrite⟩
  have hthird : kept.step b (.registers 0) s := ⟨⟨hfresh, trivial⟩, hregister⟩
  refine ⟨handler, s, ((hnil.snoc hfirst).snoc hsecond).snoc hthird, ?_, hadmitted⟩
  intro n
  by_cases hn : n = 0
  · rw [hn, hadmitted.phase]
    rfl
  · rw [hadmitted.connections n hn]
    rfl

/-- After one CREATE, and a DESTROY on another connection for a circuit that nobody has, the
heartbeat is right. -/
theorem accounted_iff_oneCircuit :
    ∃ es s, ((system .middle (KeyPair.fromSecretBytes (FixedBytes.ofNat 32 5))).restrict
        FreshIds).Run (start .middle (KeyPair.fromSecretBytes (FixedBytes.ofNat 32 5)))
        (es ++ [.arrives 1 (Message.destroy 9) (.offline (FixedBytes.ofNat 32 7))]) s ∧
      s.Settled ∧ s.Accounted ∧ s.circuitCount = 1 := by
  obtain ⟨handler, s, hrun, hsettled, hadmitted⟩ :=
    run_oneCircuit (KeyPair.fromSecretBytes (FixedBytes.ofNat 32 5))
  have hnone : s.registry.lookup (Message.destroy 9).circuitId = none := by
    rw [hadmitted.registry]
    rfl
  have hreading : (s.connections 1).phase = .reading := by
    rw [hadmitted.connections 1 (by decide)]
    rfl
  have hended : s.dispatch 1 (Message.destroy 9) (.offline (FixedBytes.ofNat 32 7)) =
      s.setPhase 1 .ended := by
    rw [dispatch, hnone]
  have hstep : Step s (.arrives 1 (Message.destroy 9) (.offline (FixedBytes.ofNat 32 7)))
      (s.setPhase 1 .ended) := by
    rw [← hended]
    refine .arrives _ _ hreading (by rw [hadmitted.lock]; rfl) (by decide) ?_
    intro ref c hfound
    cases hnone.symm.trans hfound
  have hlast : ((system .middle (KeyPair.fromSecretBytes (FixedBytes.ofNat 32 5))).restrict
      fun s e => s.FreshIds e ∧ s.KeepsCircuits e).step s
      (.arrives 1 (Message.destroy 9) (.offline (FixedBytes.ofNat 32 7))) (s.setPhase 1 .ended) :=
    ⟨⟨trivial, fun _ => hnone⟩, hstep⟩
  have hall := hrun.snoc hlast
  have hsettled' : (s.setPhase 1 .ended).Settled := by
    intro n
    rw [setPhase, connections_modify]
    split
    · rfl
    · exact hsettled n
  refine ⟨_, _, run_fresh hall, hsettled', (accounted_iff (run_fresh hall) hsettled').mpr hall, ?_⟩
  show s.circuitCount = 1
  rw [circuitCount, hadmitted.registry]
  rfl

/-- After CREATE and DESTROY on one connection the heartbeat counts one circuit, although
its handler is closed and one circuit is counted as destroyed. -/
theorem not_accounted_destroyed :
    ¬ ∀ (nodeType : NodeType) (keypair : KeyPair) es s,
      ((system nodeType keypair).restrict FreshIds).Run (start nodeType keypair) es s →
        s.Settled → s.Accounted := by
  intro hclaim
  obtain ⟨handler, s, hrun, hsettled, hadmitted⟩ :=
    run_oneCircuit (KeyPair.fromSecretBytes (FixedBytes.ofNat 32 5))
  have hlookup : s.registry.lookup 1 = some ⟨0, 0⟩ := by
    rw [hadmitted.registry]
    rfl
  have hcircuit : s.circuit? ⟨0, 0⟩ = some (HeldCircuit.admitted handler) := by
    rw [circuit?, hadmitted.circuits]
    rfl
  have hstep : Step s (.arrives 0 (Message.destroy 1) (.offline (FixedBytes.ofNat 32 7))) _ :=
    .arrives _ _ hadmitted.phase (by rw [hadmitted.lock]; rfl) (by decide) (by
      intro ref c hfound hc
      rw [show (Message.destroy 1).circuitId = 1 from rfl, hlookup] at hfound
      cases hfound
      rw [hcircuit] at hc
      cases hc
      exact RelayIo.offline_suits _ _ rfl)
  have hlast : ((system .middle (KeyPair.fromSecretBytes (FixedBytes.ofNat 32 5))).restrict
      FreshIds).step s (.arrives 0 (Message.destroy 1) (.offline (FixedBytes.ofNat 32 7))) _ :=
    ⟨trivial, hstep⟩
  have hlater := hclaim .middle _ _ _ ((run_fresh hrun).snoc hlast) (by
    intro n
    rw [dispatch_destroy rfl hlookup hcircuit, phase_count]
    by_cases hn : n = 0
    · rw [hn, phase_setPhase]
      rfl
    · rw [setPhase, connections_modify, if_neg hn, phase_modifyCircuit]
      exact hsettled n)
  refine SomeClosed.not_accounted ⟨1, ⟨0, 0⟩, ?_, ?_⟩ hlater
  · rw [dispatch_destroy rfl hlookup hcircuit]
    exact hlookup
  · rw [dispatch_destroy rfl hlookup hcircuit, state?, circuit?_count, circuit?_setPhase,
      circuit?_modifyCircuit, if_pos rfl, hcircuit]
    exact congrArg some handler.close_state

end

end RelayNode

end NoPanic
