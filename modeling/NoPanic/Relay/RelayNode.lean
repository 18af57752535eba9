/-
# A relay with all its connections

The loop of every accepted connection, the reader of every next hop and the task of
every stream run at the same time. They meet in one registry of circuits, under one
lock, and in the writers of the connections.

The registry finds a circuit by the id a cell carries. Here it holds references: a
circuit is kept with the connection its CREATE came in on, together with the next
hops it opened and the tasks of its streams, because these live on when the registry
replaces the handler or the handler is closed.

A step is what one task does between two places where another may come in. The loop
calls a handler under the registry's lock and keeps the lock until it has written the
answer; the reader of a next hop releases it first. A call of an exit handler is one
step, and so is sealing and writing one cell of a stream: `ExitNode` cuts these at
the crypto lock.
-/

import NoPanic.Relay.CircuitHandler
import NoPanic.Circuit.ExitNode

namespace NoPanic

open NoPanic.Math

/-! ## What a circuit owns -/

/-- Where the reader of a next hop stands. -/
inductive BackwardPhase
  | reading
  /-- The answer to a cell of the given size is to be written, and no lock is held. -/
  | replying (response : Message) (received : Nat)
  /-- The loop has ended; DESTROY and a shutdown are to follow. -/
  | closing
  | stopped
  deriving DecidableEq, Repr

/-- The background reader of a next hop, with what it took along when it started. -/
structure NextHopReader where
  nodeType : NodeType
  circuitId : CircuitId
  /-- The connection it writes to. -/
  prevHop : Nat
  phase : BackwardPhase
  deriving DecidableEq, Repr

/-- A connection that a circuit opened: the cells written to it, and its reader. -/
structure NextHopLink where
  written : List Message
  reader : Option NextHopReader
  deriving DecidableEq, Repr

/-- The task of a stream: the connection it writes cells to, the bytes of its last
read, the data queued for it, and the data it has written to its destination. -/
structure ExitTask where
  streamId : StreamId
  prevHop : Nat
  phase : TaskPhase
  read : Nat
  queued : List Bytes
  written : List Bytes
  deriving DecidableEq, Repr

namespace ExitTask

/-- Queue data for a stream. The sender of a stream belongs to its last task. -/
def queueLast (streamId : StreamId) (data : Bytes) : List ExitTask → List ExitTask
  | [] => []
  | task :: tasks =>
      if task.streamId = streamId ∧ ¬ tasks.any fun later => later.streamId == streamId then
        { task with queued := task.queued ++ [data] } :: tasks
      else task :: queueLast streamId data tasks

end ExitTask

/-- The bytes of a read. -/
def StreamRead.size : StreamRead → Nat
  | .data bytes => bytes.length
  | _ => 0

/-- A circuit of a relay. The crypto state of an exit is shared with the tasks of its
streams, and stays theirs when the handler lets go of it. -/
structure HeldCircuit where
  handler : CircuitHandler
  shared : Option ExitCryptoState
  links : List NextHopLink
  tasks : List ExitTask

namespace HeldCircuit

/-- A circuit whose CREATE has just been answered. -/
def admitted (handler : CircuitHandler) : HeldCircuit := ⟨handler, handler.sharedState, [], []⟩

/-- The circuit after a call of its handler. -/
def setHandler (c : HeldCircuit) (handler : CircuitHandler) : HeldCircuit :=
  { c with handler, shared := handler.sharedState.or c.shared }

/-- The circuit after a task has changed the crypto state. -/
def setShared (c : HeldCircuit) (state : ExitCryptoState) : HeldCircuit :=
  { c with handler := c.handler.setShared state, shared := some state }

/-- Change one of the connections it opened. -/
def modifyLink (c : HeldCircuit) (k : Nat) (f : NextHopLink → NextHopLink) : HeldCircuit :=
  { c with links := c.links.modify k f }

/-- Change the phase of a reader. -/
def setReader (c : HeldCircuit) (k : Nat) (phase : BackwardPhase) : HeldCircuit :=
  c.modifyLink k fun link =>
    { link with reader := link.reader.map fun reader => { reader with phase } }

/-- Change the task of a stream. -/
def modifyTask (c : HeldCircuit) (i : Nat) (f : ExitTask → ExitTask) : HeldCircuit :=
  { c with tasks := c.tasks.modify i f }

/-- The reader of a next hop. -/
def reader? (c : HeldCircuit) (k : Nat) : Option NextHopReader :=
  c.links[k]?.bind NextHopLink.reader

/-- Whether the last task of a stream still runs. -/
def accepts (c : HeldCircuit) (streamId : StreamId) : Bool :=
  (c.tasks.reverse.find? fun task => task.streamId == streamId).any fun task =>
    task.phase != .finished

end HeldCircuit

/-- The answers of the outside fit a circuit: a connection it opens is a new one, and
a stream takes data as long as its task runs. -/
structure RelayIo.Suits (io : RelayIo) (ref : CircuitRef) (c : HeldCircuit) : Prop where
  connect : ∀ addr fingerprint conn, io.connect addr fingerprint = .ok conn →
    conn = .next ref c.links.length
  destination : ∀ streamId, io.destinationOpen streamId = c.accepts streamId

/-- An outside in which nothing can be reached. -/
def RelayIo.offline (ySecret : FixedBytes 32) : RelayIo where
  ySecret := ySecret
  connect _ _ := .error "unreachable"
  write _ _ := .ok ()
  readCreated _ _ := .timeout
  resolve _ := .error "unreachable"
  tcpConnect _ := .error "unreachable"
  destinationOpen _ := false

/-- Nothing can be reached from a circuit without streams. -/
theorem RelayIo.offline_suits (ySecret : FixedBytes 32) (ref : CircuitRef) {c : HeldCircuit}
    (htasks : c.tasks = []) : (RelayIo.offline ySecret).Suits ref c := by
  refine ⟨?_, ?_⟩
  · intro addr fingerprint conn hconnect
    cases hconnect
  · intro streamId
    simp [offline, HeldCircuit.accepts, htasks]

/-! ## The relay -/

/-- What a relay writes to a previous hop. -/
inductive RelayOutput
  | cell (msg : Message)
  | shutdown
  deriving DecidableEq, Repr

/-- Where the loop of a connection stands. -/
inductive ConnectionPhase
  | reading
  /-- A CREATE is handled, and CREATED is to be written. -/
  | greeting (handler : CircuitHandler) (response : Message)
  /-- CREATED is written and counted, and the circuit is to be registered. -/
  | registering (handler : CircuitHandler)
  /-- A cell is handled, and the answer is to be written under the registry's lock. -/
  | replying (command : MessageCommand) (circuitId : CircuitId) (response : Message)
  | ended

/-- A connection that the relay accepted, with the circuits created on it. -/
structure RelayConnection where
  phase : ConnectionPhase
  circuits : List HeldCircuit
  written : List RelayOutput

/-- The counters of a relay. -/
structure RelayMetrics where
  circuitsCreated : UInt64
  circuitsDestroyed : UInt64
  bytesForwarded : UInt64
  bytesReceived : UInt64
  streamsOpened : UInt64
  deriving DecidableEq, Repr

namespace RelayMetrics

/-- The counters at the start. -/
def new : RelayMetrics := ⟨0, 0, 0, 0, 0⟩

/-- Count a circuit whose CREATED is written. -/
def addCreated (m : RelayMetrics) : RelayMetrics :=
  { m with circuitsCreated := m.circuitsCreated + 1 }

/-- Count a DESTROY. -/
def addDestroyed (m : RelayMetrics) : RelayMetrics :=
  { m with circuitsDestroyed := m.circuitsDestroyed + 1 }

/-- Count bytes that went forward. -/
def addForwarded (m : RelayMetrics) (n : Nat) : RelayMetrics :=
  { m with bytesForwarded := m.bytesForwarded + UInt64.ofNat n }

/-- Count bytes that came back. -/
def addReceived (m : RelayMetrics) (n : Nat) : RelayMetrics :=
  { m with bytesReceived := m.bytesReceived + UInt64.ofNat n }

/-- Count an open stream. -/
def addStream (m : RelayMetrics) : RelayMetrics := { m with streamsOpened := m.streamsOpened + 1 }

end RelayMetrics

/-- A relay. The lock of the registry is held across a write by the loop of at most
one connection. -/
structure RelayNode where
  nodeType : NodeType
  keypair : KeyPair
  connections : Nat → RelayConnection
  registry : HashMap CircuitId CircuitRef
  lock : Option Nat
  metrics : RelayMetrics

namespace RelayNode

/-- A relay that has just started. -/
def start (nodeType : NodeType) (keypair : KeyPair) : RelayNode :=
  ⟨nodeType, keypair, fun _ => ⟨.reading, [], []⟩, ∅, none, RelayMetrics.new⟩

/-- A circuit, by where it was created. -/
def circuit? (node : RelayNode) (ref : CircuitRef) : Option HeldCircuit :=
  (node.connections ref.conn).circuits[ref.serial]?

/-- The value of `circuits_active` in a heartbeat. -/
def circuitCount (node : RelayNode) : Nat := node.registry.entries.length

/-- Change a connection. -/
def modify (node : RelayNode) (n : Nat) (f : RelayConnection → RelayConnection) : RelayNode :=
  { node with connections := Function.update node.connections n (f (node.connections n)) }

/-- Change the phase of a loop. -/
def setPhase (node : RelayNode) (n : Nat) (phase : ConnectionPhase) : RelayNode :=
  node.modify n fun connection => { connection with phase }

/-- Write to a previous hop. -/
def output (node : RelayNode) (n : Nat) (out : RelayOutput) : RelayNode :=
  node.modify n fun connection => { connection with written := connection.written ++ [out] }

/-- Change a circuit. -/
def modifyCircuit (node : RelayNode) (ref : CircuitRef) (f : HeldCircuit → HeldCircuit) :
    RelayNode :=
  node.modify ref.conn fun connection =>
    { connection with circuits := connection.circuits.modify ref.serial f }

/-- Change the counters. -/
def count (node : RelayNode) (f : RelayMetrics → RelayMetrics) : RelayNode :=
  { node with metrics := f node.metrics }

section

variable (node : RelayNode) (n : Nat) (ref : CircuitRef)

/-- The connections after one has been changed. -/
theorem connections_modify (f : RelayConnection → RelayConnection) (m : Nat) :
    (node.modify n f).connections m =
      if m = n then f (node.connections n) else node.connections m :=
  Function.update_apply ..

/-- The circuits after one has been changed. -/
theorem circuit?_modifyCircuit (f : HeldCircuit → HeldCircuit) (ref' : CircuitRef) :
    (node.modifyCircuit ref f).circuit? ref' =
      if ref' = ref then (node.circuit? ref).map f else node.circuit? ref' := by
  obtain ⟨n, i⟩ := ref
  obtain ⟨n', i'⟩ := ref'
  simp only [circuit?, modifyCircuit, connections_modify, CircuitRef.mk.injEq]
  by_cases hn : n' = n
  · subst hn
    rw [if_pos rfl, List.getElem?_modify]
    by_cases hi : i' = i
    · subst hi
      simp
    · simp [hi, Ne.symm hi]
  · simp [hn]

/-- A change that keeps the circuits of its connection keeps all circuits. -/
theorem circuit?_modify {f : RelayConnection → RelayConnection}
    (hf : (f (node.connections n)).circuits = (node.connections n).circuits) :
    (node.modify n f).circuit? ref = node.circuit? ref := by
  rw [circuit?, connections_modify, circuit?]
  split
  · next heq => rw [hf, heq]
  · rfl

@[simp]
theorem circuit?_setPhase (phase : ConnectionPhase) :
    (node.setPhase n phase).circuit? ref = node.circuit? ref :=
  circuit?_modify node n ref rfl

@[simp]
theorem circuit?_output (out : RelayOutput) :
    (node.output n out).circuit? ref = node.circuit? ref :=
  circuit?_modify node n ref rfl

@[simp]
theorem circuit?_count (f : RelayMetrics → RelayMetrics) :
    (node.count f).circuit? ref = node.circuit? ref := rfl

end

/-- Carry out what a handler does outside, called by the loop of connection `n` for the
circuit `ref`. -/
def deliver (n : Nat) (ref : CircuitRef) (node : RelayNode) : RelayEffect → RelayNode
  | .dial _ _ (.next owner _) =>
      node.modifyCircuit owner fun c => { c with links := c.links ++ [⟨[], none⟩] }
  | .send (.prev m) msg => node.output m (.cell msg)
  | .send (.next owner k) msg =>
      node.modifyCircuit owner fun c =>
        c.modifyLink k fun link => { link with written := link.written ++ [msg] }
  | .openStream streamId _ =>
      (node.modifyCircuit ref fun c =>
        { c with tasks := c.tasks ++ [⟨streamId, n, .idle, 0, [], []⟩] }).count
        RelayMetrics.addStream
  | .queue streamId data =>
      (node.modifyCircuit ref fun c =>
        { c with tasks := ExitTask.queueLast streamId data c.tasks }).count
        fun m => m.addForwarded data.length
  | _ => node

/-- Start the reader of a circuit's next hop, if it has one that is not read yet. -/
def spawnReader (node : RelayNode) (n : Nat) (circuitId : CircuitId) : RelayNode :=
  match node.registry.lookup circuitId with
  | none => node
  | some ref =>
      match node.circuit? ref with
      | none => node
      | some c =>
          match c.handler.takeReader with
          | (handler, some (.next owner k)) =>
              let reader : NextHopReader := ⟨handler.nodeType, handler.circuitId, n, .reading⟩
              (node.modifyCircuit ref fun c => c.setHandler handler).modifyCircuit owner fun c =>
                c.modifyLink k fun link => { link with reader := some reader }
          | _ => node

/-- The end of a round of the loop: count a DESTROY, or start a reader. -/
def conclude (node : RelayNode) (n : Nat) (command : MessageCommand) (circuitId : CircuitId) :
    RelayNode :=
  let node := node.setPhase n .reading
  match command with
  | .destroy => node.count RelayMetrics.addDestroyed
  | .extend | .extended => node.spawnReader n circuitId
  | _ => node

/-- What the loop of connection `n` does with the outcome of a handler's call. -/
def handle (node : RelayNode) (n : Nat) (ref : CircuitRef) (msg : Message)
    (out : Handled CircuitHandler (Option Message)) : RelayNode :=
  let node := node.modifyCircuit ref fun c => c.setHandler out.handler
  let node := out.effects.foldl (deliver n ref) node
  match out.result with
  | .error _ => node.setPhase n .ended
  | .ok none => node.conclude n msg.command msg.circuitId
  | .ok (some response) =>
      { node.setPhase n (.replying msg.command msg.circuitId response) with lock := some n }

/-- The loop registers the circuit of a CREATE. -/
def register (node : RelayNode) (n : Nat) (handler : CircuitHandler) : RelayNode :=
  let ref : CircuitRef := ⟨n, (node.connections n).circuits.length⟩
  let node := node.modify n fun connection =>
    { connection with
      phase := .reading
      circuits := connection.circuits ++ [HeldCircuit.admitted handler] }
  { node with registry := node.registry.insert handler.circuitId ref }

/-- The loop writes CREATED, and counts the circuit. -/
def greet (node : RelayNode) (n : Nat) (handler : CircuitHandler) (response : Message)
    (stream : Except String Unit) : RelayNode :=
  match response.writeToStream stream with
  | .error _ => node.setPhase n .ended
  | .ok () =>
      ((node.output n (.cell response)).setPhase n (.registering handler)).count
        RelayMetrics.addCreated

/-- Writing CREATED when the stream takes it. -/
theorem greet_ok {node : RelayNode} {n : Nat} {handler : CircuitHandler} {response : Message}
    (hfits : response.data.length ≤ maxPayloadSize) :
    node.greet n handler response (.ok ()) =
      ((node.output n (.cell response)).setPhase n (.registering handler)).count
        RelayMetrics.addCreated := by
  simp only [greet, Message.writeToStream_ok hfits]

/-- Count the bytes of an answer, unless it belongs to EXTEND or DESTROY. -/
def countReply (node : RelayNode) (command : MessageCommand) (bytes : Nat) : RelayNode :=
  match command with
  | .extend | .extended | .destroy => node
  | _ => node.count fun m => m.addForwarded bytes

/-- The loop writes the answer of a handler, and releases the registry. -/
def reply (node : RelayNode) (n : Nat) (command : MessageCommand) (circuitId : CircuitId)
    (response : Message) (stream : Except String Unit) : RelayNode :=
  match response.writeToStream stream with
  | .error _ => { node.setPhase n .ended with lock := none }
  | .ok () =>
      let node := (node.output n (.cell response)).countReply command response.data.length
      { node.conclude n command circuitId with lock := none }

/-- The reader of a next hop writes an answer. -/
def relay (node : RelayNode) (ref : CircuitRef) (k : Nat) (reader : NextHopReader)
    (response : Message) (received : Nat) (stream : Except String Unit) : RelayNode :=
  match response.writeToStream stream with
  | .error _ => node.modifyCircuit ref fun c => c.setReader k .closing
  | .ok () =>
      ((node.output reader.prevHop (.cell response)).modifyCircuit ref fun c =>
        c.setReader k .reading).count fun m => m.addReceived received

/-- The last thing the reader of a next hop does: DESTROY, whether it can be written or
not, and a shutdown. -/
def close (node : RelayNode) (ref : CircuitRef) (k : Nat) (reader : NextHopReader)
    (stream : Except String Unit) : RelayNode :=
  let destroy := Message.destroy reader.circuitId
  let node := match destroy.writeToStream stream with
    | .error _ => node
    | .ok () => node.output reader.prevHop (.cell destroy)
  (node.output reader.prevHop .shutdown).modifyCircuit ref fun c => c.setReader k .stopped

/-! ### The phase of a loop -/

@[simp]
theorem phase_setPhase (node : RelayNode) (n : Nat) (phase : ConnectionPhase) :
    ((node.setPhase n phase).connections n).phase = phase := by
  rw [setPhase, connections_modify, if_pos rfl]

/-- A change of a connection that keeps its phase keeps every phase. -/
theorem phase_modify {node : RelayNode} {n : Nat} {f : RelayConnection → RelayConnection}
    (hf : (f (node.connections n)).phase = (node.connections n).phase) (m : Nat) :
    ((node.modify n f).connections m).phase = (node.connections m).phase := by
  rw [connections_modify]
  split
  · next heq => rw [hf, heq]
  · rfl

@[simp]
theorem phase_output (node : RelayNode) (n : Nat) (out : RelayOutput) (m : Nat) :
    ((node.output n out).connections m).phase = (node.connections m).phase :=
  phase_modify (by rfl) m

@[simp]
theorem phase_modifyCircuit (node : RelayNode) (ref : CircuitRef) (f : HeldCircuit → HeldCircuit)
    (m : Nat) : ((node.modifyCircuit ref f).connections m).phase = (node.connections m).phase :=
  phase_modify (by rfl) m

@[simp]
theorem phase_count (node : RelayNode) (f : RelayMetrics → RelayMetrics) (m : Nat) :
    ((node.count f).connections m).phase = (node.connections m).phase := rfl

/-- Starting a reader changes the phase of no loop. -/
@[simp]
theorem phase_spawnReader (node : RelayNode) (n : Nat) (circuitId : CircuitId) (m : Nat) :
    ((node.spawnReader n circuitId).connections m).phase = (node.connections m).phase := by
  unfold spawnReader
  split
  · rfl
  · split
    · rfl
    · split
      · simp only [phase_modifyCircuit]
      · rfl

/-- After a round the loop reads on. -/
@[simp]
theorem phase_conclude (node : RelayNode) (n : Nat) (command : MessageCommand)
    (circuitId : CircuitId) :
    ((node.conclude n command circuitId).connections n).phase = .reading := by
  cases command <;> simp [conclude]

/-! ### Calls of the handlers -/

section

variable [Primitives] [AddrText]

/-- The loop handles a CREATE with a new handler. -/
def create (node : RelayNode) (n : Nat) (msg : Message) (io : RelayIo) : RelayNode :=
  let handler := CircuitHandler.new node.nodeType msg.circuitId node.keypair
  let out := handler.handleMessage io (some (.prev n)) msg
  match out.result with
  | .error _ => node.setPhase n .ended
  | .ok none => node
  | .ok (some response) => node.setPhase n (.greeting out.handler response)

/-- The loop handles any other cell with the handler that the registry finds. -/
def dispatch (node : RelayNode) (n : Nat) (msg : Message) (io : RelayIo) : RelayNode :=
  match node.registry.lookup msg.circuitId with
  | none => node.setPhase n .ended
  | some ref =>
      match node.circuit? ref with
      | none => node
      | some c => node.handle n ref msg (c.handler.handleMessage io (some (.prev n)) msg)

/-- The reader of a next hop handles a cell with the handler that the registry finds.
At an entry relay DESTROY ends the reader at once. -/
def receive (node : RelayNode) (ref : CircuitRef) (k : Nat) (reader : NextHopReader)
    (msg : Message) : RelayNode :=
  if reader.nodeType = .entry ∧ msg.command = .destroy then
    node.modifyCircuit ref fun c => c.setReader k .closing
  else
    match node.registry.lookup msg.circuitId with
    | none => node.modifyCircuit ref fun c => c.setReader k .closing
    | some found =>
        match node.circuit? found with
        | none => node
        | some c =>
            let (handler, result) := c.handler.handleBackwardRelay msg
            let phase : BackwardPhase := match result with
              | .error _ => .closing
              | .ok none => .reading
              | .ok (some response) => .replying response msg.data.length
            (node.modifyCircuit found fun c => c.setHandler handler).modifyCircuit ref fun c =>
              c.setReader k phase

/-- The task of a stream seals its next cell and writes it. -/
def emit (node : RelayNode) (ref : CircuitRef) (i : Nat) (circuitId : CircuitId)
    (state : ExitCryptoState) (task : ExitTask) (cell : MessageCommand × Bytes)
    (stream : Except String Unit) : RelayNode :=
  let (state, msg) := state.sealCell circuitId task.streamId cell.1 cell.2
  let node := node.modifyCircuit ref fun c => c.setShared state
  match msg.writeToStream stream with
  | .error _ =>
      node.modifyCircuit ref fun c => c.modifyTask i fun task => { task with phase := .finished }
  | .ok () =>
      let node := (node.output task.prevHop (.cell msg)).modifyCircuit ref fun c =>
        c.modifyTask i fun task => { task with phase := task.phase.advance }
      if task.phase.advance = .idle then node.count fun m => m.addReceived task.read else node

end

end RelayNode

/-- What the tasks of a relay do. -/
inductive RelayNodeEvent
  | arrives (n : Nat) (msg : Message) (io : RelayIo)
  | creates (n : Nat) (msg : Message) (io : RelayIo)
  | registers (n : Nat)
  | writes (n : Nat) (stream : Except String Unit)
  | hangsUp (n : Nat)
  | receives (ref : CircuitRef) (k : Nat) (msg : Message)
  | loses (ref : CircuitRef) (k : Nat)
  | relays (ref : CircuitRef) (k : Nat) (stream : Except String Unit)
  | closes (ref : CircuitRef) (k : Nat) (stream : Except String Unit)
  | reads (ref : CircuitRef) (i : Nat) (read : StreamRead)
  | emits (ref : CircuitRef) (i : Nat) (stream : Except String Unit)
  | forwards (ref : CircuitRef) (i : Nat)
  | stops (ref : CircuitRef) (i : Nat)

namespace RelayNodeEvent

/-- The connection that an event belongs to: the one whose loop acts, or on which the
circuit was created whose reader or stream acts. -/
def conn : RelayNodeEvent → Nat
  | .arrives n .. | .creates n .. | .registers n | .writes n _ | .hangsUp n => n
  | .receives ref .. | .loses ref _ | .relays ref .. | .closes ref .. => ref.conn
  | .reads ref .. | .emits ref .. | .forwards ref _ | .stops ref _ => ref.conn

end RelayNodeEvent

namespace RelayNode

variable [Primitives] [AddrText]

/-- One step of a task. -/
inductive Step : RelayNode → RelayNodeEvent → RelayNode → Prop
  | arrives {node : RelayNode} {n : Nat} (msg : Message) (io : RelayIo)
      (hphase : (node.connections n).phase = .reading) (hlock : node.lock = none)
      (hcommand : msg.command ≠ .create)
      (hio : ∀ ref c, node.registry.lookup msg.circuitId = some ref →
        node.circuit? ref = some c → io.Suits ref c) :
      Step node (.arrives n msg io) (node.dispatch n msg io)
  | creates {node : RelayNode} {n : Nat} (msg : Message) (io : RelayIo)
      (hphase : (node.connections n).phase = .reading) (hcommand : msg.command = .create) :
      Step node (.creates n msg io) (node.create n msg io)
  | greets {node : RelayNode} {n : Nat} {handler : CircuitHandler} {response : Message}
      (stream : Except String Unit)
      (hphase : (node.connections n).phase = .greeting handler response) :
      Step node (.writes n stream) (node.greet n handler response stream)
  | registers {node : RelayNode} {n : Nat} {handler : CircuitHandler}
      (hphase : (node.connections n).phase = .registering handler) (hlock : node.lock = none) :
      Step node (.registers n) (node.register n handler)
  | replies {node : RelayNode} {n : Nat} {command : MessageCommand} {circuitId : CircuitId}
      {response : Message} (stream : Except String Unit)
      (hphase : (node.connections n).phase = .replying command circuitId response) :
      Step node (.writes n stream) (node.reply n command circuitId response stream)
  | /-- The previous hop closes the connection, or reading fails. -/
    hangsUp {node : RelayNode} {n : Nat} (hphase : (node.connections n).phase = .reading) :
      Step node (.hangsUp n) (node.setPhase n .ended)
  | receives {node : RelayNode} {ref : CircuitRef} {c : HeldCircuit} {k : Nat}
      {reader : NextHopReader} (msg : Message) (hcircuit : node.circuit? ref = some c)
      (hreader : c.reader? k = some reader) (hphase : reader.phase = .reading)
      (hlock : node.lock = none) :
      Step node (.receives ref k msg) (node.receive ref k reader msg)
  | /-- The next hop closes the connection, or reading fails. -/
    loses {node : RelayNode} {ref : CircuitRef} {c : HeldCircuit} {k : Nat}
      {reader : NextHopReader} (hcircuit : node.circuit? ref = some c)
      (hreader : c.reader? k = some reader) (hphase : reader.phase = .reading) :
      Step node (.loses ref k) (node.modifyCircuit ref fun c => c.setReader k .closing)
  | relays {node : RelayNode} {ref : CircuitRef} {c : HeldCircuit} {k : Nat}
      {reader : NextHopReader} {response : Message} {received : Nat}
      (stream : Except String Unit) (hcircuit : node.circuit? ref = some c)
      (hreader : c.reader? k = some reader) (hphase : reader.phase = .replying response received) :
      Step node (.relays ref k stream) (node.relay ref k reader response received stream)
  | closes {node : RelayNode} {ref : CircuitRef} {c : HeldCircuit} {k : Nat}
      {reader : NextHopReader} (stream : Except String Unit)
      (hcircuit : node.circuit? ref = some c) (hreader : c.reader? k = some reader)
      (hphase : reader.phase = .closing) :
      Step node (.closes ref k stream) (node.close ref k reader stream)
  | reads {node : RelayNode} {ref : CircuitRef} {c : HeldCircuit} {i : Nat} {task : ExitTask}
      (read : StreamRead) (hcircuit : node.circuit? ref = some c)
      (htask : c.tasks[i]? = some task) (hphase : task.phase = .idle) :
      Step node (.reads ref i read) (node.modifyCircuit ref fun c =>
        c.modifyTask i fun task =>
          { task with
            phase := .next read.cells read.isLast
            read := read.size })
  | emits {node : RelayNode} {ref : CircuitRef} {c : HeldCircuit} {i : Nat} {task : ExitTask}
      {state : ExitCryptoState} {cell : MessageCommand × Bytes} (stream : Except String Unit)
      (hcircuit : node.circuit? ref = some c) (htask : c.tasks[i]? = some task)
      (hcell : task.phase.cells.head? = some cell) (hshared : c.shared = some state) :
      Step node (.emits ref i stream) (node.emit ref i c.handler.circuitId state task cell stream)
  | /-- Queued data is written to the destination. -/
    forwards {node : RelayNode} {ref : CircuitRef} {c : HeldCircuit} {i : Nat} {task : ExitTask}
      {data : Bytes} {rest : List Bytes} (hcircuit : node.circuit? ref = some c)
      (htask : c.tasks[i]? = some task) (hphase : task.phase = .idle)
      (hqueued : task.queued = data :: rest) :
      Step node (.forwards ref i) (node.modifyCircuit ref fun c =>
        c.modifyTask i fun task =>
          { task with
            queued := rest
            written := task.written ++ [data] })
  | /-- The channel of a stream is closed, or writing to its destination fails. -/
    stops {node : RelayNode} {ref : CircuitRef} {c : HeldCircuit} {i : Nat} {task : ExitTask}
      (hcircuit : node.circuit? ref = some c) (htask : c.tasks[i]? = some task)
      (hphase : task.phase = .idle) :
      Step node (.stops ref i) (node.modifyCircuit ref fun c =>
        c.modifyTask i fun task => { task with phase := .finished })

/-- The runs of a relay from its start. -/
def system (nodeType : NodeType) (keypair : KeyPair) :
    TransitionSystem RelayNode RelayNodeEvent where
  init node := node = start nodeType keypair
  step := Step

/-! ## CREATE and DESTROY -/

/-- A relay after the CREATE of a new circuit: nothing else has changed. -/
structure Admitted (node : RelayNode) (n : Nat) (circuitId : CircuitId) (handler : CircuitHandler)
    (after : RelayNode) : Prop where
  nodeType : after.nodeType = node.nodeType
  keypair : after.keypair = node.keypair
  phase : (after.connections n).phase = .reading
  circuits : (after.connections n).circuits =
    (node.connections n).circuits ++ [HeldCircuit.admitted handler]
  connections : ∀ m, m ≠ n → after.connections m = node.connections m
  registry : after.registry =
    node.registry.insert circuitId ⟨n, (node.connections n).circuits.length⟩
  lock : after.lock = node.lock
  metrics : after.metrics = node.metrics.addCreated

/-- A new handler's answer to a CREATE with a whole key is to be written. -/
theorem create_eq (node : RelayNode) (n : Nat) (circuitId : CircuitId) (io : RelayIo)
    (clientPublic : FixedBytes 32) :
    ∃ handler response key,
      node.create n (Message.create circuitId clientPublic.1) io =
        node.setPhase n (.greeting handler response) ∧
      response.data.length ≤ maxPayloadSize ∧
      handler.Holds node.nodeType circuitId key (CipherPair.new key) none := by
  obtain ⟨hresult, hholds⟩ := CircuitHandler.holds_create node.nodeType circuitId node.keypair io
    (some (.prev n)) clientPublic
  refine ⟨_, Message.created circuitId
    ((node.keypair.ntorServerHandshake io.ySecret clientPublic).1.1 ++
      (node.keypair.ntorServerHandshake io.ySecret clientPublic).2.1.1), _, ?_, ?_, hholds⟩
  · simp only [create]
    rw [show (Message.create circuitId clientPublic.1).circuitId = circuitId from rfl, hresult]
  · have hpublic := (node.keypair.ntorServerHandshake io.ySecret clientPublic).1.2
    have hauth := (node.keypair.ntorServerHandshake io.ySecret clientPublic).2.1.2
    simp only [Message.created, Message.circuit, Message.new, List.length_append, hpublic, hauth]
    decide

/-- A CREATE with a whole key on an idle connection: the handshake is answered, CREATED is
written, and the circuit is registered. -/
theorem create_steps (node : RelayNode) (n : Nat) (circuitId : CircuitId) (io : RelayIo)
    (clientPublic : FixedBytes 32) (hphase : (node.connections n).phase = .reading)
    (hlock : node.lock = none) :
    ∃ handler key greeting registering after,
      Step node (.creates n (Message.create circuitId clientPublic.1) io) greeting ∧
      Step greeting (.writes n (.ok ())) registering ∧
      (registering.connections n).phase = .registering handler ∧
      registering.registry = node.registry ∧
      Step registering (.registers n) after ∧
      handler.Holds node.nodeType circuitId key (CipherPair.new key) none ∧
      Admitted node n circuitId handler after := by
  obtain ⟨handler, response, key, hcreate, hfits, hholds⟩ :=
    node.create_eq n circuitId io clientPublic
  let greeting := node.setPhase n (.greeting handler response)
  let registering := ((greeting.output n (.cell response)).setPhase n
    (.registering handler)).count RelayMetrics.addCreated
  have hcreates : Step node (.creates n (Message.create circuitId clientPublic.1) io) greeting := by
    rw [show greeting = node.create n (Message.create circuitId clientPublic.1) io from
      hcreate.symm]
    exact .creates _ io hphase rfl
  have hphase' : (greeting.connections n).phase = .greeting handler response := by
    simp only [greeting, setPhase, connections_modify, if_true]
  have hgreets : Step greeting (.writes n (.ok ())) registering := by
    rw [show registering = greeting.greet n handler response (.ok ()) from (greet_ok hfits).symm]
    exact .greets (.ok ()) hphase'
  have hwaits : (registering.connections n).phase = .registering handler := by
    simp only [registering, count, setPhase, connections_modify, if_true]
  have hother : ∀ m, m ≠ n → registering.connections m = node.connections m := by
    intro m hm
    simp only [registering, greeting, count, output, setPhase, connections_modify, if_neg hm]
  have hcircuits : (registering.connections n).circuits = (node.connections n).circuits := by
    simp only [registering, greeting, count, output, setPhase, connections_modify, if_true]
  have hid : handler.circuitId = circuitId := hholds.id
  refine ⟨handler, key, greeting, registering, _, hcreates, hgreets, hwaits, rfl,
    .registers hwaits hlock, hholds, ⟨rfl, rfl, ?_, ?_, ?_, ?_, rfl, rfl⟩⟩
  · simp only [register, connections_modify, if_true]
  · simp only [register, connections_modify, if_true, hcircuits]
  · intro m hm
    simp only [register, connections_modify, if_neg hm, hother m hm]
  · simp only [register, hid, hcircuits]
    rfl

/-- A DESTROY whose id finds a circuit closes the handler, and is counted. -/
theorem dispatch_destroy {node : RelayNode} {n : Nat} {msg : Message} {io : RelayIo}
    {ref : CircuitRef} {c : HeldCircuit} (hcommand : msg.command = .destroy)
    (hlookup : node.registry.lookup msg.circuitId = some ref)
    (hcircuit : node.circuit? ref = some c) :
    node.dispatch n msg io =
      ((node.modifyCircuit ref fun c' => c'.setHandler c.handler.close).setPhase n .reading).count
        RelayMetrics.addDestroyed := by
  simp only [dispatch, hlookup, hcircuit]
  rw [CircuitHandler.handleMessage_destroy c.handler io _ hcommand]
  simp only [handle, List.foldl_nil, conclude, hcommand]

end RelayNode

end NoPanic
