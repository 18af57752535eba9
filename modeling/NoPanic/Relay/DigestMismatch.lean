/-
# A forward digest mismatch at the exit

When the digest of a BEGIN, DATA or END does not match, the exit's handler returns an
error and the loop of the connection ends. That is all: the handler stays in the
registry with its keys and streams, and the tasks of the streams hold their own
references to the crypto state and to the writer of the previous hop, so they go on
reading from their destinations, writing what is queued for them, and sending cells
back.
-/

import NoPanic.Relay.RelayNode
import NoPanic.Common.Reference

namespace NoPanic

open NoPanic.Math

/-- A handler that is closed and holds nothing of its circuit any more. -/
structure CircuitHandler.Released (handler : CircuitHandler) : Prop where
  state : handler.state = .closed
  sessionKey : handler.sessionKey = none
  cipherPair : handler.cipherPair = none
  nextHop : handler.nextHop = none
  streams : handler.streams = ∅

/-- A cell whose digest does not match moves the crypto state on and leaves everything
else of the handler as it is. -/
theorem ExitCircuitHandler.handleMessage_mismatch [Primitives] {h : ExitCircuitHandler}
    {state : ExitCryptoState} (io : RelayIo) (writer : ConnId) {msg : Message}
    (hcommand : msg.command = .begin ∨ msg.command = .data ∨ msg.command = .end)
    (hshared : h.sharedState = some state) (hmismatch : (state.openCell msg).2.2 = false) :
    ∃ e, h.handleMessage io (some writer) msg =
      ⟨{ h with sharedState := some (state.openCell msg).1 }, [], .error e⟩ := by
  rcases hcommand with hcommand | hcommand | hcommand
  · refine ⟨.text "Digest mismatch on BEGIN", ?_⟩
    simp [ExitCircuitHandler.handleMessage, hcommand, ExitCircuitHandler.handleBegin, hshared,
      hmismatch]
  · refine ⟨.text "Digest mismatch on DATA", ?_⟩
    simp [ExitCircuitHandler.handleMessage, hcommand, ExitCircuitHandler.handleData, hshared,
      hmismatch]
  · refine ⟨.text "Digest mismatch on END", ?_⟩
    simp [ExitCircuitHandler.handleMessage, hcommand, ExitCircuitHandler.handleEnd, hshared,
      hmismatch]

namespace RelayNode

/-- The cells of a circuit id that were written to a previous hop. -/
def cellsTo (node : RelayNode) (n : Nat) (circuitId : CircuitId) : List Message :=
  (node.connections n).written.filterMap fun
    | .cell msg => if msg.circuitId = circuitId then some msg else none
    | .shutdown => none

/-- What the streams of a circuit have written to their destinations. -/
def delivered (node : RelayNode) (ref : CircuitRef) : Option (List (List Bytes)) :=
  (node.circuit? ref).map fun c => c.tasks.map ExitTask.written

/-- A change of a circuit writes to no previous hop. -/
@[simp]
theorem cellsTo_modifyCircuit (node : RelayNode) (ref : CircuitRef)
    (f : HeldCircuit → HeldCircuit) (n : Nat) (circuitId : CircuitId) :
    (node.modifyCircuit ref f).cellsTo n circuitId = node.cellsTo n circuitId := by
  rw [cellsTo, cellsTo, modifyCircuit, connections_modify]
  split
  · next heq => rw [heq]
  · rfl

/-- What has been written to a previous hop after one more output. -/
theorem cellsTo_output (node : RelayNode) (n : Nat) (msg : Message) :
    (node.output n (.cell msg)).cellsTo n msg.circuitId =
      node.cellsTo n msg.circuitId ++ [msg] := by
  rw [cellsTo, output, connections_modify, if_pos rfl, List.filterMap_append]
  simp [cellsTo]

section

variable [Primitives] [AddrText]

/-- A circuit is torn down: its handler is closed and released, and from now on nothing of
it reaches a destination or a previous hop. -/
structure TornDown (node : RelayNode) (ref : CircuitRef) : Prop where
  released : ∀ c, node.circuit? ref = some c → c.handler.Released
  destinations : ∀ es later, (system node.nodeType node.keypair).Run node es later →
    later.delivered ref = node.delivered ref
  backward : ∀ es later, (system node.nodeType node.keypair).Run node es later →
    ∀ c n, node.circuit? ref = some c →
      later.cellsTo n c.handler.circuitId = node.cellsTo n c.handler.circuitId

/-- A circuit can still act: a stream task that waits can send a cell back, and can write
what is queued for it. -/
structure CanAct (node : RelayNode) (ref : CircuitRef) (c : HeldCircuit) (task : ExitTask) :
    Prop where
  backward : ∃ es later, (system node.nodeType node.keypair).Run node es later ∧
    later.cellsTo task.prevHop c.handler.circuitId ≠
      node.cellsTo task.prevHop c.handler.circuitId
  destination : task.queued ≠ [] →
    ∃ es later, (system node.nodeType node.keypair).Run node es later ∧
      later.delivered ref ≠ node.delivered ref

/-! ## What the tasks can still do -/

/-- A task that waits may find its destination closed, and then sends END back. -/
theorem run_ends {node : RelayNode} {ref : CircuitRef} {c : HeldCircuit} {i : Nat}
    {task : ExitTask} {state : ExitCryptoState} (hcircuit : node.circuit? ref = some c)
    (htask : c.tasks[i]? = some task) (hidle : task.phase = .idle)
    (hshared : c.shared = some state) :
    ∃ es later, (system node.nodeType node.keypair).Run node es later ∧
      later.cellsTo task.prevHop c.handler.circuitId ≠
        node.cellsTo task.prevHop c.handler.circuitId := by
  let task' : ExitTask := { task with phase := .sending [(.end, [])] true, read := 0 }
  have hreads := Step.reads .closed hcircuit htask hidle
  generalize hafter : node.modifyCircuit ref _ = after at hreads
  have hcircuit' : ∃ c', after.circuit? ref = some c' ∧ c'.handler = c.handler ∧
      c'.shared = some state ∧ c'.tasks[i]? = some task' := by
    rw [← hafter, circuit?_modifyCircuit, if_pos rfl, hcircuit]
    refine ⟨_, rfl, rfl, hshared, ?_⟩
    simp [HeldCircuit.modifyTask, htask, task', TaskPhase.next, StreamRead.cells, StreamRead.isLast,
      StreamRead.size]
  obtain ⟨c', hcircuit', hhandler, hshared', htask'⟩ := hcircuit'
  have hcell : task'.phase.cells.head? = some (.end, []) := rfl
  have hemits := Step.emits (.ok ()) hcircuit' htask' hcell hshared'
  have hrun : (system node.nodeType node.keypair).Run node [] node := .nil node
  refine ⟨_, _, (hrun.snoc hreads).snoc hemits, ?_⟩
  have hbefore : after.cellsTo task.prevHop c.handler.circuitId =
      node.cellsTo task.prevHop c.handler.circuitId := by
    rw [← hafter, cellsTo_modifyCircuit]
  have hfits : (state.sealCell c'.handler.circuitId task.streamId .end []).2.writeToStream
      (.ok ()) = .ok () := by
    apply Message.writeToStream_ok
    simp [ExitCryptoState.sealCell, Message.new]
  have hcells := cellsTo_output
    (after.modifyCircuit ref fun c => c.setShared
      (state.sealCell c'.handler.circuitId task.streamId .end []).1) task.prevHop
    (state.sealCell c'.handler.circuitId task.streamId .end []).2
  rw [show (state.sealCell c'.handler.circuitId task.streamId .end []).2.circuitId =
    c.handler.circuitId by rw [← hhandler]; rfl] at hcells
  have hlength : (after.emit ref i c'.handler.circuitId state task' (.end, []) (.ok ())).cellsTo
      task.prevHop c.handler.circuitId =
        node.cellsTo task.prevHop c.handler.circuitId ++
          [(state.sealCell c'.handler.circuitId task.streamId .end []).2] := by
    rw [cellsTo_modifyCircuit, hbefore] at hcells
    rw [← hcells]
    simp only [emit, task', hfits, TaskPhase.advance, TaskPhase.next]
    rw [if_neg (by simp), cellsTo_modifyCircuit]
  rw [hlength]
  simp

/-- A task that waits may write what is queued for it. -/
theorem run_forwards {node : RelayNode} {ref : CircuitRef} {c : HeldCircuit} {i : Nat}
    {task : ExitTask} (hcircuit : node.circuit? ref = some c) (htask : c.tasks[i]? = some task)
    (hidle : task.phase = .idle) (hqueued : task.queued ≠ []) :
    ∃ es later, (system node.nodeType node.keypair).Run node es later ∧
      later.delivered ref ≠ node.delivered ref := by
  obtain ⟨data, rest, hsplit⟩ := List.exists_cons_of_ne_nil hqueued
  have hforwards := Step.forwards hcircuit htask hidle hsplit
  have hrun : (system node.nodeType node.keypair).Run node [] node := .nil node
  refine ⟨_, _, hrun.snoc hforwards, ?_⟩
  intro heq
  rw [delivered, delivered, circuit?_modifyCircuit, if_pos rfl, hcircuit] at heq
  have hat := congrArg (fun written => written[i]?) (Option.some.inj heq)
  simp [HeldCircuit.modifyTask, htask] at hat

/-! ## What a mismatch does -/

/-- A cell whose digest does not match ends the loop of its connection and tears nothing
down: the circuit stays registered, with its state, its keys and its streams, and each of
its stream tasks that waits can still act. -/
theorem mismatch_not_tornDown {node t : RelayNode} {n : Nat} {msg : Message} {io : RelayIo}
    {ref : CircuitRef} {c : HeldCircuit} {h : ExitCircuitHandler} {state : ExitCryptoState}
    (hstep : Step node (.arrives n msg io) t)
    (hlookup : node.registry.lookup msg.circuitId = some ref)
    (hcircuit : node.circuit? ref = some c) (hhandler : c.handler = .exit h)
    (hcommand : msg.command = .begin ∨ msg.command = .data ∨ msg.command = .end)
    (hshared : h.sharedState = some state) (hmismatch : (state.openCell msg).2.2 = false) :
    (t.connections n).phase = .ended ∧ t.registry = node.registry ∧ ¬ t.TornDown ref ∧
      ∃ c', t.circuit? ref = some c' ∧
        c'.handler = .exit { h with sharedState := some (state.openCell msg).1 } ∧
        c'.tasks = c.tasks ∧
        ∀ (i : Nat) (task : ExitTask), c.tasks[i]? = some task → task.phase = .idle →
          t.CanAct ref c' task := by
  obtain ⟨e, hcall⟩ := ExitCircuitHandler.handleMessage_mismatch io (.prev n) hcommand hshared
    hmismatch
  let handler : CircuitHandler := .exit { h with sharedState := some (state.openCell msg).1 }
  have hafter : t = (node.modifyCircuit ref fun c => c.setHandler handler).setPhase n .ended := by
    cases hstep with
    | arrives _ _ hphase hlock hcreate hio =>
        simp only [dispatch, hlookup, hcircuit, hhandler, CircuitHandler.handleMessage, hcall,
          CircuitHandler.lift, handle, List.foldl_nil, handler]
  have hcircuit' : t.circuit? ref = some (c.setHandler handler) := by
    rw [hafter, circuit?_setPhase, circuit?_modifyCircuit, if_pos rfl, hcircuit]
    rfl
  refine ⟨by rw [hafter, phase_setPhase], by rw [hafter]; rfl, ?_,
    c.setHandler handler, hcircuit', rfl, rfl, ?_⟩
  · intro htorn
    have hkeys := (htorn.released _ hcircuit').cipherPair
    simp [HeldCircuit.setHandler, handler, CircuitHandler.cipherPair] at hkeys
  · intro i task htask hidle
    have hstate : (c.setHandler handler).shared = some (state.openCell msg).1 := rfl
    exact ⟨run_ends hcircuit' htask hidle hstate, run_forwards hcircuit' htask hidle⟩

omit [AddrText] in
/-- For every cell there is a digest that does not match. -/
theorem exists_mismatch (state : ExitCryptoState) (msg : Message) :
    ∃ digest, (state.openCell { msg with digest }).2.2 = false := by
  by_cases hzero : (state.openCell { msg with digest := FixedBytes.ofNat 4 0 }).2.2 = true
  · refine ⟨FixedBytes.ofNat 4 1, ?_⟩
    rw [Bool.eq_false_iff]
    intro hone
    simp only [ExitCryptoState.openCell, RunningDigest.verify_snd] at hzero hone
    exact absurd (hzero.trans hone.symm) (by decide)
  · exact ⟨_, Bool.eq_false_iff.mpr hzero⟩

/-- A registered exit circuit, and a DATA cell for it whose digest does not match. -/
theorem mismatch_setting (keypair : KeyPair) :
    ∃ node msg c h state, (system .exit keypair).Reachable node ∧
      Step node (.arrives 0 msg (.offline (FixedBytes.ofNat 32 7)))
        (node.dispatch 0 msg (.offline (FixedBytes.ofNat 32 7))) ∧
      node.registry.lookup msg.circuitId = some ⟨0, 0⟩ ∧ node.circuit? ⟨0, 0⟩ = some c ∧
      c.handler = .exit h ∧ msg.command = .data ∧ h.sharedState = some state ∧
      (state.openCell msg).2.2 = false := by
  obtain ⟨handler, key, a, b, node, hcreate, hwrite, -, -, hregister, hholds, hadmitted⟩ :=
    create_steps (start .exit keypair) 0 1 (.offline (FixedBytes.ofNat 32 7))
      (FixedBytes.ofNat 32 8) rfl rfl
  have hkind := hholds.kind
  have hpair := hholds.pair
  cases handler with
  | entry | middle => cases hkind
  | exit h =>
      obtain ⟨state, hshared, -⟩ := Option.map_eq_some_iff.mp hpair
      obtain ⟨digest, hmismatch⟩ := exists_mismatch state (Message.new 1 1 .data [])
      have hlookup : node.registry.lookup 1 = some ⟨0, 0⟩ := by
        rw [hadmitted.registry]
        rfl
      have hcircuit : node.circuit? ⟨0, 0⟩ = some (HeldCircuit.admitted (.exit h)) := by
        rw [circuit?, hadmitted.circuits]
        rfl
      have hnil : (system .exit keypair).Run (start .exit keypair) [] (start .exit keypair) :=
        .nil _
      refine ⟨node, { Message.new 1 1 .data [] with digest }, _, h, state,
        ⟨_, _, rfl, ((hnil.snoc hcreate).snoc hwrite).snoc hregister⟩, ?_, hlookup, hcircuit, rfl,
        rfl, hshared, hmismatch⟩
      refine .arrives _ _ hadmitted.phase (by rw [hadmitted.lock]; rfl)
        (by simp [Message.new]) ?_
      intro ref c hfound hc
      rw [show ({ Message.new 1 1 .data [] with digest } : Message).circuitId = 1 from rfl,
        hlookup] at hfound
      cases hfound
      rw [hcircuit] at hc
      cases hc
      exact RelayIo.offline_suits _ _ rfl

end

section

open Reference

/-- A DATA cell with a wrong digest on a new exit circuit. -/
theorem mismatch_not_tornDown_wrongDigest :
    ∃ (node : RelayNode) (msg : Message),
      (system .exit (KeyPair.fromSecretBytes (FixedBytes.ofNat 32 5))).Reachable node ∧
      ((node.dispatch 0 msg (.offline (FixedBytes.ofNat 32 7))).connections 0).phase = .ended ∧
      ¬ (node.dispatch 0 msg (.offline (FixedBytes.ofNat 32 7))).TornDown ⟨0, 0⟩ := by
  obtain ⟨node, msg, c, h, state, hreach, hstep, hlookup, hcircuit, hhandler, hcommand, hshared,
    hmismatch⟩ := mismatch_setting (KeyPair.fromSecretBytes (FixedBytes.ofNat 32 5))
  have hresult := mismatch_not_tornDown hstep hlookup hcircuit hhandler (Or.inr (Or.inl hcommand))
    hshared hmismatch
  exact ⟨node, msg, hreach, hresult.1, hresult.2.2.1⟩

/-- A digest mismatch does not tear a circuit down. -/
theorem not_tornDown_wrongDigest :
    ¬ ∀ (keypair : KeyPair) node n msg io ref c h state t,
      (system .exit keypair).Reachable node → Step node (.arrives n msg io) t →
      node.registry.lookup msg.circuitId = some ref → node.circuit? ref = some c →
      c.handler = .exit h →
      (msg.command = .begin ∨ msg.command = .data ∨ msg.command = .end) →
      h.sharedState = some state → (state.openCell msg).2.2 = false → t.TornDown ref := by
  intro hclaim
  obtain ⟨node, msg, c, h, state, hreach, hstep, hlookup, hcircuit, hhandler, hcommand, hshared,
    hmismatch⟩ := mismatch_setting (KeyPair.fromSecretBytes (FixedBytes.ofNat 32 5))
  obtain ⟨e, hcall⟩ := ExitCircuitHandler.handleMessage_mismatch
    (.offline (FixedBytes.ofNat 32 7)) (.prev 0) (Or.inr (Or.inl hcommand)) hshared hmismatch
  have htorn := hclaim _ node 0 msg _ ⟨0, 0⟩ c h state _ hreach hstep hlookup hcircuit hhandler
    (Or.inr (Or.inl hcommand)) hshared hmismatch
  have hafter : (node.dispatch 0 msg (.offline (FixedBytes.ofNat 32 7))).circuit? ⟨0, 0⟩ =
      some (c.setHandler (.exit { h with sharedState := some (state.openCell msg).1 })) := by
    simp only [dispatch, hlookup, hcircuit, hhandler, CircuitHandler.handleMessage, hcall,
      CircuitHandler.lift, handle, List.foldl_nil]
    rw [circuit?_setPhase, circuit?_modifyCircuit, if_pos rfl, hcircuit]
    rfl
  have hkeys := (htorn.released _ hafter).cipherPair
  simp [HeldCircuit.setHandler, CircuitHandler.cipherPair] at hkeys

end

end RelayNode

end NoPanic
