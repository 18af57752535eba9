/-
# An exit circuit between its locks

The connection loop and the tasks of the streams share two locks: the crypto state
of the exit circuit, and the writer to the previous hop. Here a call of the
handler is cut at the places where it takes or releases one of them, so that the
tasks can run in between. CONNECTED and every cell of a task is sealed and written
under the crypto lock. A reply with END is sealed under it, but the handler
returns the reply, and the loop writes it later.

A call that nothing interrupts is the call of `ExitCircuitHandler.handleMessage`.
-/

import NoPanic.Circuit.ExitEnd
import NoPanic.Math.TransitionSystem

namespace NoPanic

open NoPanic.Math

/-- Who takes the locks: the connection loop, the task of a stream, or somebody
that writes the cells of another circuit to the same connection. -/
inductive Emitter
  | loop
  | task (n : Nat)
  | other (n : Nat)
  deriving DecidableEq, Repr

/-- A held crypto lock: by whom, and the sealed cell that is to be written under it. -/
structure CryptoGuard where
  owner : Emitter
  reply : Message
  deriving DecidableEq, Repr

/-- Where the connection loop stands with this circuit. -/
inductive LoopPhase
  /-- It reads the next cell. -/
  | reading
  /-- The handler is called, and is to open the cell. -/
  | opening (msg : Message)
  /-- The cell is opened, and its digest has passed. -/
  | deciding (msg : Message) (decrypted : Bytes)
  /-- A destination is connected, and CONNECTED is to be sealed. -/
  | connecting (streamId : StreamId) (destination : String)
  /-- CONNECTED is sealed, and is to be written under the same lock. -/
  | announcing (streamId : StreamId) (destination : String)
  /-- The answer is to be END. -/
  | ending (streamId : StreamId) (endData : Bytes)
  /-- The handler has returned a sealed reply, and holds no lock. -/
  | replying (reply : Message)
  /-- The loop has ended. -/
  | stopped
  deriving DecidableEq, Repr

/-- Where the task of a stream stands. -/
inductive TaskPhase
  | idle
  /-- It emits cells one after the other; after the last read it ends. -/
  | sending (cells : List (MessageCommand × Bytes)) (last : Bool)
  | finished
  deriving DecidableEq, Repr

namespace TaskPhase

/-- The cells that a task has still to emit. -/
def cells : TaskPhase → List (MessageCommand × Bytes)
  | .sending cells _ => cells
  | _ => []

/-- Go on with the cells that are left. -/
def next (cells : List (MessageCommand × Bytes)) (last : Bool) : TaskPhase :=
  if cells.isEmpty then (if last then .finished else .idle) else .sending cells last

/-- A task after it has written its first cell. -/
def advance : TaskPhase → TaskPhase
  | .sending (_ :: cells) last => next cells last
  | phase => phase

end TaskPhase

/-- After a closed destination or a read error the task ends. -/
def StreamRead.isLast : StreamRead → Bool
  | .data _ => false
  | _ => true

/-- The task of a stream. -/
structure StreamTask where
  streamId : StreamId
  phase : TaskPhase
  deriving DecidableEq, Repr

/-- The connection to the previous hop, by the cells of this circuit that have been
written to it. -/
structure Wire where
  cells : List Message
  up : Bool
  deriving DecidableEq, Repr

/-- Write a cell. A payload that is too large is refused; an error of the stream is
final. -/
def Wire.write (wire : Wire) (msg : Message) (stream : Except String Unit) :
    Wire × Except TorError Unit :=
  match msg.writeToStream stream with
  | .ok () => ({ wire with cells := wire.cells ++ [msg] }, .ok ())
  | .error (.payloadTooLarge size limit) => (wire, .error (.payloadTooLarge size limit))
  | .error e => ({ wire with up := false }, .error e)

/-- A write that succeeds. -/
theorem Wire.write_ok {wire : Wire} {msg : Message} {stream : Except String Unit}
    (hwrite : msg.writeToStream stream = .ok ()) :
    wire.write msg stream = ({ wire with cells := wire.cells ++ [msg] }, .ok ()) := by
  simp [Wire.write, hwrite]

/-- A write that fails writes nothing. -/
theorem Wire.write_error {wire : Wire} {msg : Message} {stream : Except String Unit} {e : TorError}
    (hwrite : msg.writeToStream stream = .error e) :
    (wire.write msg stream).1.cells = wire.cells ∧ (wire.write msg stream).2 = .error e := by
  rw [Wire.write, hwrite]
  cases e <;> exact ⟨rfl, rfl⟩

/-- An exit circuit with its locks. The crypto state is behind its lock; `live` says
whether the handler still refers to it. The last two fields are the history: the
cells that were sealed, in the order in which they took the digest and the
keystream. -/
structure ExitNode where
  context : CircuitContext
  keypair : KeyPair
  streams : HashMap StreamId ExitStream
  live : Bool
  shared : ExitCryptoState
  /-- The crypto lock, while it is held across a write. -/
  guard : Option CryptoGuard
  /-- The lock of the writer to the previous hop. -/
  writer : Option Emitter
  loop : LoopPhase
  tasks : List StreamTask
  wire : Wire
  emitted : List RelayCell
  sealedCells : List Message

namespace ExitNode

/-- The handler of a circuit, with its view of the crypto state. -/
def handler (node : ExitNode) : ExitCircuitHandler :=
  ⟨node.context, node.keypair, node.streams, if node.live then some node.shared else none⟩

/-- A circuit whose handler has just been put into the registry. -/
def start (h : ExitCircuitHandler) (shared : ExitCryptoState) : ExitNode where
  context := h.context
  keypair := h.keypair
  streams := h.streams
  live := true
  shared := shared
  guard := none
  writer := none
  loop := .reading
  tasks := []
  wire := ⟨[], true⟩
  emitted := []
  sealedCells := []

/-- Whether the handler opens a cell, under the crypto lock. -/
def opensCell (node : ExitNode) (msg : Message) : Bool :=
  node.live && (msg.command == .begin || msg.command == .data || msg.command == .end)

/-- Handle a cell that needs no lock: DESTROY, PADDING, or an error. -/
def dispatch (node : ExitNode) (msg : Message) : ExitNode :=
  match msg.command with
  | .destroy =>
      { node with context := node.context.close, streams := ∅, live := false, loop := .reading }
  | .padding => { node with loop := .reading }
  | _ => { node with loop := .stopped }

/-- Decide what an opened cell asks for. -/
def decide (node : ExitNode) (io : RelayIo) (msg : Message) (decrypted : Bytes) : ExitNode :=
  match msg.command with
  | .begin =>
      match fromUtf8 decrypted with
      | none => { node with loop := .stopped }
      | some text =>
          let destStr := trimEndZeros text
          match (io.connectTo destStr).2 with
          | .ok () => { node with loop := .connecting msg.streamId destStr }
          | .error e =>
              { node with loop := .ending msg.streamId (asBytes s!"Connection failed: {e}") }
  | .data =>
      match node.streams.lookup msg.streamId with
      | some _ =>
          if io.destinationOpen msg.streamId then { node with loop := .reading }
          else { node with loop := .ending msg.streamId (asBytes "Destination closed") }
      | none => { node with loop := .ending msg.streamId (asBytes "Stream not found") }
  | _ =>
      { node with
        streams := node.streams.erase msg.streamId
        loop := .ending msg.streamId [] }

/-- The cell that an emitter is to seal. -/
def nextCell (node : ExitNode) : Emitter → Option RelayCell
  | .loop =>
      match node.loop with
      | .connecting streamId _ => some ⟨streamId, .connected, []⟩
      | .ending streamId endData => some ⟨streamId, .end, endData⟩
      | _ => none
  | .task n =>
      node.tasks[n]?.bind fun task =>
        task.phase.cells.head?.map fun cell => ⟨task.streamId, cell.1, cell.2⟩
  | .other _ => none

/-- The sealed cell that an emitter is to write. -/
def toWrite (node : ExitNode) : Emitter → Option Message
  | .loop =>
      match node.loop with
      | .replying reply => some reply
      | .announcing .. => (node.guard.filter fun g => g.owner = .loop).map CryptoGuard.reply
      | _ => none
  | .task n => (node.guard.filter fun g => g.owner = .task n).map CryptoGuard.reply
  | .other _ => none

/-- The reply that the loop holds without a lock. -/
def reply (node : ExitNode) : Option Message :=
  match node.loop with
  | .replying reply => some reply
  | _ => none

/-- A sealed cell that is not written. -/
def pending (node : ExitNode) : Option Message :=
  node.reply.or (node.guard.map CryptoGuard.reply)

/-- Change the phase of a task. -/
def setTask (node : ExitNode) (n : Nat) (f : TaskPhase → TaskPhase) : ExitNode :=
  { node with tasks := node.tasks.modify n fun task => { task with phase := f task.phase } }

/-- The loop after its write: after CONNECTED the stream is open and has its task. -/
def loopWritten (node : ExitNode) (result : Except TorError Unit) : ExitNode :=
  match node.loop, result with
  | .announcing streamId destination, .ok () =>
      { node with
        guard := none
        writer := none
        streams := node.streams.insert streamId ⟨destination⟩
        tasks := node.tasks ++ [⟨streamId, .idle⟩]
        loop := .reading }
  | .announcing .., .error _ => { node with guard := none, writer := none, loop := .stopped }
  | _, .ok () => { node with writer := none, loop := .reading }
  | _, .error _ => { node with writer := none, loop := .stopped }

/-- A task after its write: when writing fails it ends. -/
def taskWritten (node : ExitNode) (n : Nat) (result : Except TorError Unit) : ExitNode :=
  match result with
  | .ok () => { node.setTask n TaskPhase.advance with guard := none, writer := none }
  | .error _ => { node.setTask n (fun _ => .finished) with guard := none, writer := none }

/-- What becomes of an emitter and its locks after its write. -/
def written (node : ExitNode) (who : Emitter) (result : Except TorError Unit) : ExitNode :=
  match who with
  | .loop => node.loopWritten result
  | .task n => node.taskWritten n result
  | .other _ => { node with writer := none }

section

variable [Primitives]

/-- Open a cell, in one scope of the crypto lock. -/
def openCell (node : ExitNode) (msg : Message) : ExitNode :=
  let (shared, decrypted, valid) := node.shared.openCell msg
  { node with shared, loop := if valid then .deciding msg decrypted else .stopped }

/-- Seal a cell. An END of the loop is sealed in a scope of its own; any other cell
is kept under the lock until it is written. -/
def sealFor (node : ExitNode) (who : Emitter) (cell : RelayCell) : ExitNode :=
  let (shared, msg) :=
    node.shared.sealCell node.context.circuitId cell.streamId cell.command cell.data
  let node := { node with
    shared
    emitted := node.emitted ++ [cell]
    sealedCells := node.sealedCells ++ [msg] }
  match who, node.loop with
  | .loop, .connecting streamId destination =>
      { node with loop := .announcing streamId destination, guard := some ⟨.loop, msg⟩ }
  | .loop, _ => { node with loop := .replying msg }
  | who, _ => { node with guard := some ⟨who, msg⟩ }

end

end ExitNode

/-- The steps of an exit circuit. -/
inductive ExitEvent
  | arrives (msg : Message)
  | opens
  | dispatches
  | decides (io : RelayIo)
  | reads (n : Nat) (read : StreamRead)
  | stops (n : Nat)
  | seals (who : Emitter)
  | locksWriter (who : Emitter)
  | writes (who : Emitter) (stream : Except String Unit)

namespace ExitNode

variable [Primitives]

/-- One step of the loop, of a task, or of another writer. -/
inductive Step : ExitNode → ExitEvent → ExitNode → Prop
  | /-- A cell for this circuit arrives. A CREATE goes to a new handler. -/
    arrives {node : ExitNode} {msg : Message} (hloop : node.loop = .reading)
      (hcommand : msg.command ≠ .create) :
      Step node (.arrives msg) { node with loop := .opening msg }
  | opens {node : ExitNode} {msg : Message} (hloop : node.loop = .opening msg)
      (hopens : node.opensCell msg = true) (hlock : node.guard = none) :
      Step node .opens (node.openCell msg)
  | dispatches {node : ExitNode} {msg : Message} (hloop : node.loop = .opening msg)
      (hopens : node.opensCell msg = false) : Step node .dispatches (node.dispatch msg)
  | decides {node : ExitNode} {msg : Message} {decrypted : Bytes} (io : RelayIo)
      (hloop : node.loop = .deciding msg decrypted) :
      Step node (.decides io) (node.decide io msg decrypted)
  | /-- The task of a stream reads from its destination. -/
    reads {node : ExitNode} {n : Nat} {task : StreamTask} (read : StreamRead)
      (htask : node.tasks[n]? = some task) (hidle : task.phase = .idle) :
      Step node (.reads n read) (node.setTask n fun _ => .next read.cells read.isLast)
  | /-- Its channel is closed, or writing to its destination fails. -/
    stops {node : ExitNode} {n : Nat} {task : StreamTask} (htask : node.tasks[n]? = some task)
      (hidle : task.phase = .idle) : Step node (.stops n) (node.setTask n fun _ => .finished)
  | seals {node : ExitNode} {who : Emitter} {cell : RelayCell}
      (hnext : node.nextCell who = some cell) (hlock : node.guard = none) :
      Step node (.seals who) (node.sealFor who cell)
  | locksWriter {node : ExitNode} {who : Emitter} (hfree : node.writer = none)
      (hwaits : (∃ n, who = .other n) ∨ (node.toWrite who).isSome = true) :
      Step node (.locksWriter who) { node with writer := some who }
  | writes {node : ExitNode} {who : Emitter} {msg : Message} {stream : Except String Unit}
      (hwriter : node.writer = some who) (hmsg : node.toWrite who = some msg)
      (hup : stream = .ok () → node.wire.up = true) :
      Step node (.writes who stream)
        ({ node with wire := (node.wire.write msg stream).1 }.written who
          (node.wire.write msg stream).2)
  | /-- A cell of another circuit is written, or finds the connection broken. -/
    writesOther {node : ExitNode} {n : Nat} {stream : Except String Unit}
      (hwriter : node.writer = some (.other n)) (hup : stream = .ok () → node.wire.up = true) :
      Step node (.writes (.other n) stream)
        { node with
          writer := none
          wire := match stream with
            | .ok () => node.wire
            | .error _ => { node.wire with up := false } }

/-- The runs of an exit circuit from a start. -/
def system (origin : ExitNode) : TransitionSystem ExitNode ExitEvent where
  init node := node = origin
  step := Step

/-! ## A call that nothing interrupts -/

/-- The loop has done what a call of the handler does. -/
structure Completes (out : Handled ExitCircuitHandler (Option Message)) (node after : ExitNode) :
    Prop where
  handler : after.handler = out.handler
  wire : after.wire.cells = node.wire.cells ++ out.effects.filterMap RelayEffect.sent?
  loop : after.loop = match out.result with
    | .ok none => .reading
    | .ok (some reply) => .replying reply
    | .error _ => .stopped

/-- Sealing END completes a reply with END. -/
theorem completes_replyEnd (node : ExitNode) {streamId : StreamId} {endData : Bytes}
    {effects : List RelayEffect} (hloop : node.loop = .ending streamId endData)
    (hlive : node.live = true) (hsent : effects.filterMap RelayEffect.sent? = []) :
    Completes (node.handler.replyEnd node.shared effects streamId endData) node
      (node.sealFor .loop ⟨streamId, .end, endData⟩) := by
  have hseal : node.sealFor .loop ⟨streamId, .end, endData⟩ =
      { node with
        shared := (node.shared.sealCell node.context.circuitId streamId .end endData).1
        emitted := node.emitted ++ [⟨streamId, .end, endData⟩]
        sealedCells := node.sealedCells ++
          [(node.shared.sealCell node.context.circuitId streamId .end endData).2]
        loop := .replying (node.shared.sealCell node.context.circuitId streamId .end endData).2 }
      := by simp only [sealFor, hloop]
  rw [hseal]
  refine ⟨?_, ?_, rfl⟩
  · simp [ExitNode.handler, ExitCircuitHandler.replyEnd, hlive]
  · simp [ExitCircuitHandler.replyEnd, hsent, RelayEffect.sent?]

/-- The step in which the loop seals END completes a call that ends in a reply. -/
theorem run_ending (origin decided : ExitNode)
    {out : Handled ExitCircuitHandler (Option Message)} {streamId : StreamId} {endData : Bytes}
    {effects : List RelayEffect} (hloop : decided.loop = .ending streamId endData)
    (hlive : decided.live = true) (hguard : decided.guard = none)
    (hsent : effects.filterMap RelayEffect.sent? = [])
    (hout : out = decided.handler.replyEnd decided.shared effects streamId endData) :
    ∃ events after, (system origin).Run decided events after ∧ Completes out decided after := by
  have hseals : Step decided (.seals .loop)
      (decided.sealFor .loop ⟨streamId, .end, endData⟩) :=
    .seals (by simp [nextCell, hloop]) hguard
  refine ⟨_, _, (TransitionSystem.Run.nil decided).snoc hseals, ?_⟩
  rw [hout]
  exact completes_replyEnd decided hloop hlive hsent

/-- What a call returns that opens a stream, by the outcome of writing CONNECTED. -/
def openStream (node : ExitNode) (io : RelayIo) (prevHop : ConnId) (streamId : StreamId)
    (destination : String) (effects : List RelayEffect) :
    Handled ExitCircuitHandler (Option Message) :=
  let (shared, response) :=
    node.shared.sealCell node.context.circuitId streamId .connected []
  let h := { node.handler with sharedState := some shared }
  let effects := effects ++ [.sealed streamId .connected []]
  match response.writeToStream (io.write prevHop response) with
  | .error e => ⟨h, effects, .error (.tor e)⟩
  | .ok () =>
      ⟨{ h with streams := h.streams.insert streamId ⟨destination⟩ },
        effects ++ [.send prevHop response, .openStream streamId destination], .ok none⟩

/-- The steps in which the loop seals CONNECTED and writes it complete a call that opens a
stream. -/
theorem run_connecting (origin decided : ExitNode) (io : RelayIo)
    (prevHop : ConnId) {out : Handled ExitCircuitHandler (Option Message)} {streamId : StreamId}
    {destination : String} {effects : List RelayEffect}
    (hloop : decided.loop = .connecting streamId destination) (hlive : decided.live = true)
    (hguard : decided.guard = none) (hwriter : decided.writer = none)
    (hup : decided.wire.up = true) (hsent : effects.filterMap RelayEffect.sent? = [])
    (hout : out = decided.openStream io prevHop streamId destination effects) :
    ∃ events after, (system origin).Run decided events after ∧ Completes out decided after := by
  let sealed := decided.shared.sealCell decided.context.circuitId streamId .connected []
  let announced : ExitNode := { decided with
    shared := sealed.1
    emitted := decided.emitted ++ [⟨streamId, .connected, []⟩]
    sealedCells := decided.sealedCells ++ [sealed.2]
    loop := .announcing streamId destination
    guard := some ⟨.loop, sealed.2⟩ }
  have hseals : Step decided (.seals .loop) announced := by
    have hstep : Step decided (.seals .loop) (decided.sealFor .loop ⟨streamId, .connected, []⟩) :=
      .seals (by simp [nextCell, hloop]) hguard
    rwa [show decided.sealFor .loop ⟨streamId, .connected, []⟩ = announced by
      simp only [sealFor, hloop]; rfl] at hstep
  have hwrite : announced.toWrite .loop = some sealed.2 := by
    simp [toWrite, announced]
  have hlocks : Step announced (.locksWriter .loop) { announced with writer := some .loop } :=
    .locksWriter hwriter (.inr (by rw [hwrite]; rfl))
  have hwrites : Step { announced with writer := some .loop }
      (.writes .loop (io.write prevHop sealed.2)) _ := .writes rfl hwrite fun _ => hup
  refine ⟨_, _, (((TransitionSystem.Run.nil decided).snoc hseals).snoc hlocks).snoc hwrites, ?_⟩
  rw [hout]
  cases hresult : sealed.2.writeToStream (io.write prevHop sealed.2) with
  | ok _ =>
      have hopen : decided.openStream io prevHop streamId destination effects =
          ⟨{ decided.handler with
              sharedState := some sealed.1
              streams := decided.handler.streams.insert streamId ⟨destination⟩ },
            effects ++ [.sealed streamId .connected []] ++
              [.send prevHop sealed.2, .openStream streamId destination], .ok none⟩ := by
        simp only [openStream, sealed] at hresult ⊢
        rw [hresult]
      rw [hopen]
      simp only [Wire.write_ok hresult]
      refine ⟨?_, ?_, rfl⟩
      · simp [ExitNode.handler, written, loopWritten, announced, hlive]
      · simp [written, loopWritten, announced, hsent, RelayEffect.sent?,
          List.filterMap_cons]
  | error e =>
      have hopen : decided.openStream io prevHop streamId destination effects =
          ⟨{ decided.handler with sharedState := some sealed.1 },
            effects ++ [.sealed streamId .connected []], .error (.tor e)⟩ := by
        simp only [openStream, sealed] at hresult ⊢
        rw [hresult]
      obtain ⟨hcells, hfailed⟩ := decided.wire.write_error hresult
      rw [hopen]
      refine ⟨?_, ?_, ?_⟩
      · simp [ExitNode.handler, written, loopWritten, announced, hlive, hfailed]
      · simp [written, loopWritten, announced, hsent, RelayEffect.sent?, List.filterMap_cons,
          hfailed, hcells]
      · simp [written, loopWritten, announced, hfailed]

/-- The loop has opened a cell and decides next. -/
theorem run_decides (origin node : ExitNode) (io : RelayIo) (msg : Message)
    (shared : ExitCryptoState) (decrypted : Bytes) :
    (system origin).Run { node with shared, loop := .deciding msg decrypted }
      [.decides io]
      (({ node with shared, loop := .deciding msg decrypted } : ExitNode).decide io msg
        decrypted) :=
  (TransitionSystem.Run.nil (T := system origin) _).snoc (.decides io rfl)

section

variable (origin : ExitNode) {node : ExitNode} (io : RelayIo) (prevHop : ConnId) {msg : Message}
  {shared : ExitCryptoState} {decrypted : Bytes}

/-- A decision to answer an END is completed by the steps of the loop alone. -/
theorem run_refuses {first : List ExitEvent} {decided : ExitNode} {endData : Bytes}
    (hlive : node.live = true) (hguard : node.guard = none)
    (hfirst : (system origin).Run { node with shared, loop := .deciding msg decrypted } first
      decided)
    (hlive' : decided.live = node.live) (hguard' : decided.guard = node.guard)
    (hwire : decided.wire = node.wire) (hshared : decided.shared = shared)
    (hloop : decided.loop = .ending msg.streamId endData) (effects : List RelayEffect)
    (hsent : effects.filterMap RelayEffect.sent? = [])
    (hout : node.handler.handleMessage io (some prevHop) msg =
      decided.handler.replyEnd shared effects msg.streamId endData) :
    ∃ events after, (system origin).Run { node with shared, loop := .deciding msg decrypted } events
      after ∧ Completes (node.handler.handleMessage io (some prevHop) msg) node after := by
  obtain ⟨events, after, hends, hcompletes⟩ := run_ending origin decided hloop
    (hlive'.trans hlive) (hguard'.trans hguard) hsent (hshared ▸ hout)
  exact ⟨_, after, hfirst.trans hends, hcompletes.handler, hwire ▸ hcompletes.wire,
    hcompletes.loop⟩

/-- BEGIN: the destination is no text, cannot be reached, or is connected. -/
theorem run_decide_begin (hlive : node.live = true) (hguard : node.guard = none)
    (hwriter : node.writer = none) (hup : node.wire.up = true)
    (hopen : node.shared.openCell msg = (shared, decrypted, true)) (hbegin : msg.command = .begin) :
    ∃ events after, (system origin).Run { node with shared, loop := .deciding msg decrypted } events
      after ∧ Completes (node.handler.handleMessage io (some prevHop) msg) node after := by
  have hrun := run_decides origin node io msg shared decrypted
  cases htext : fromUtf8 decrypted with
  | none =>
      refine ⟨_, _, hrun, ?_, ?_, ?_⟩ <;>
        simp [decide, hbegin, htext, ExitNode.handler, hlive, hopen,
          ExitCircuitHandler.handleMessage, ExitCircuitHandler.handleBegin,
          RelayEffect.sent?, List.filterMap_cons]
  | some text =>
      cases hconnect : (io.connectTo (trimEndZeros text)).2 with
      | error e =>
          simp only [decide, hbegin, htext, hconnect] at hrun
          apply run_refuses origin io prevHop hlive hguard hrun rfl rfl rfl rfl rfl
            (.recovered msg.streamId msg.command decrypted ::
              (io.connectTo (trimEndZeros text)).1.map RelayEffect.attempt)
          · simp [RelayEffect.sent?]
          · simp [ExitNode.handler, hlive, hopen, ExitCircuitHandler.handleMessage, hbegin,
              ExitCircuitHandler.handleBegin, htext, hconnect]
      | ok _ =>
          simp only [decide, hbegin, htext, hconnect] at hrun
          have hout : node.handler.handleMessage io (some prevHop) msg =
              ({ node with shared } : ExitNode).openStream io prevHop msg.streamId
                (trimEndZeros text) (.recovered msg.streamId msg.command decrypted ::
                  (io.connectTo (trimEndZeros text)).1.map RelayEffect.attempt) := by
            simp only [ExitNode.handler, hlive, hopen, ExitCircuitHandler.handleMessage,
              hbegin, ExitCircuitHandler.handleBegin, htext, hconnect, if_true]
            rfl
          obtain ⟨events, after, hconnects, hcompletes⟩ := run_connecting origin
            { node with shared, loop := .connecting msg.streamId (trimEndZeros text) }
            io prevHop rfl hlive hguard hwriter hup (by simp [RelayEffect.sent?]) hout
          exact ⟨_, after, hrun.trans hconnects, hcompletes.handler, hcompletes.wire,
            hcompletes.loop⟩

/-- DATA: the stream is open, its task has ended, or there is none. -/
theorem run_decide_data (hlive : node.live = true) (hguard : node.guard = none)
    (hopen : node.shared.openCell msg = (shared, decrypted, true)) (hdata : msg.command = .data) :
    ∃ events after, (system origin).Run { node with shared, loop := .deciding msg decrypted } events
      after ∧ Completes (node.handler.handleMessage io (some prevHop) msg) node after := by
  have hrun := run_decides origin node io msg shared decrypted
  cases hstream : node.streams.lookup msg.streamId with
  | none =>
      simp only [decide, hdata, hstream] at hrun
      apply run_refuses origin io prevHop hlive hguard hrun rfl rfl rfl rfl rfl
        [.recovered msg.streamId msg.command decrypted]
      · simp [RelayEffect.sent?]
      · simp [ExitNode.handler, hlive, hopen, ExitCircuitHandler.handleMessage, hdata,
          ExitCircuitHandler.handleData, hstream]
  | some stream =>
      by_cases hdest : io.destinationOpen msg.streamId
      · refine ⟨_, _, hrun, ?_, ?_, ?_⟩ <;>
          simp [decide, hdata, hstream, hdest, ExitNode.handler, hlive, hopen,
            ExitCircuitHandler.handleMessage, ExitCircuitHandler.handleData,
            RelayEffect.sent?, List.filterMap_cons]
      · simp only [decide, hdata, hstream, hdest] at hrun
        apply run_refuses origin io prevHop hlive hguard hrun rfl rfl rfl rfl rfl
          [.recovered msg.streamId msg.command decrypted]
        · simp [RelayEffect.sent?]
        · simp [ExitNode.handler, hlive, hopen, ExitCircuitHandler.handleMessage, hdata,
            ExitCircuitHandler.handleData, hstream, hdest]

/-- END: the stream is closed, if there is one. -/
theorem run_decide_end (hlive : node.live = true) (hguard : node.guard = none)
    (hopen : node.shared.openCell msg = (shared, decrypted, true)) (hend : msg.command = .end) :
    ∃ events after, (system origin).Run { node with shared, loop := .deciding msg decrypted } events
      after ∧ Completes (node.handler.handleMessage io (some prevHop) msg) node after := by
  have hrun := run_decides origin node io msg shared decrypted
  simp only [decide, hend] at hrun
  apply run_refuses origin io prevHop hlive hguard hrun rfl rfl rfl rfl rfl
    [.recovered msg.streamId msg.command decrypted]
  · simp [RelayEffect.sent?]
  · simp [ExitNode.handler, hlive, hopen, ExitCircuitHandler.handleMessage, hend,
      ExitCircuitHandler.handleEnd]

end

/-- What is decided for an opened cell is completed by the steps of the loop alone. -/
theorem run_decide (origin : ExitNode) {node : ExitNode} (io : RelayIo) (prevHop : ConnId)
    {msg : Message} (hlive : node.live = true)
    (hguard : node.guard = none) (hwriter : node.writer = none) (hup : node.wire.up = true)
    (hcommand : msg.command = .begin ∨ msg.command = .data ∨ msg.command = .end) :
    ∃ events after, (system origin).Run (node.openCell msg) events after ∧
      Completes (node.handler.handleMessage io (some prevHop) msg) node after := by
  cases hopen : node.shared.openCell msg with
  | mk shared opened =>
  obtain ⟨decrypted, valid⟩ := opened
  cases valid with
  | false =>
      refine ⟨[], _, .nil _, ?_⟩
      rcases hcommand with hbegin | hdata | hend
      · refine ⟨?_, ?_, ?_⟩ <;>
          simp [openCell, hopen, ExitNode.handler, hlive, ExitCircuitHandler.handleMessage,
            hbegin, ExitCircuitHandler.handleBegin]
      · refine ⟨?_, ?_, ?_⟩ <;>
          simp [openCell, hopen, ExitNode.handler, hlive, ExitCircuitHandler.handleMessage,
            hdata, ExitCircuitHandler.handleData]
      · refine ⟨?_, ?_, ?_⟩ <;>
          simp [openCell, hopen, ExitNode.handler, hlive, ExitCircuitHandler.handleMessage,
            hend, ExitCircuitHandler.handleEnd]
  | true =>
      have hopened : node.openCell msg = { node with shared, loop := .deciding msg decrypted } := by
        simp [openCell, hopen]
      rw [hopened]
      rcases hcommand with hbegin | hdata | hend
      · exact run_decide_begin origin io prevHop hlive hguard hwriter hup hopen hbegin
      · exact run_decide_data origin io prevHop hlive hguard hopen hdata
      · exact run_decide_end origin io prevHop hlive hguard hopen hend

/-- A call that nothing interrupts is the call of the handler. -/
theorem run_handleMessage (origin : ExitNode) {node : ExitNode} (io : RelayIo) (prevHop : ConnId)
    {msg : Message} (hloop : node.loop = .reading) (hcreate : msg.command ≠ .create)
    (hguard : node.guard = none) (hwriter : node.writer = none) (hup : node.wire.up = true) :
    ∃ events after, (system origin).Run node events after ∧
      Completes (node.handler.handleMessage io (some prevHop) msg) node after := by
  have harrives : Step node (.arrives msg) { node with loop := .opening msg } :=
    .arrives hloop hcreate
  cases hopens : node.opensCell msg with
  | false =>
      have hdispatches : Step { node with loop := .opening msg } .dispatches _ :=
        .dispatches rfl hopens
      refine ⟨_, _, ((TransitionSystem.Run.nil node).snoc harrives).snoc hdispatches, ?_⟩
      cases hcommand : msg.command <;> simp [opensCell, hcommand] at hopens hcreate <;>
        refine ⟨?_, ?_, ?_⟩ <;>
        simp [dispatch, hcommand, ExitNode.handler, ExitCircuitHandler.handleMessage,
          ExitCircuitHandler.handleBegin, ExitCircuitHandler.handleData,
          ExitCircuitHandler.handleEnd, ExitCircuitHandler.close, hopens]
  | true =>
      have hopens' : Step { node with loop := .opening msg } .opens
          (({ node with loop := .opening msg } : ExitNode).openCell msg) :=
        .opens rfl hopens hguard
      simp only [opensCell, Bool.and_eq_true, Bool.or_eq_true, beq_iff_eq, or_assoc] at hopens
      obtain ⟨events, after, hrun, hcompletes⟩ := run_decide origin io prevHop hopens.1 hguard
        hwriter hup hopens.2
      exact ⟨_, after, (((TransitionSystem.Run.nil node).snoc harrives).snoc hopens').trans hrun,
        hcompletes⟩

end ExitNode

end NoPanic
