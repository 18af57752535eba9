/-
# An established circuit

The client, the relays of one circuit and the links between them. Every party has
an inbox for each direction it reads from, and takes its next cell whenever it is
scheduled; what a cell does to its handler, and what the handler writes, is what
the handler's own code says. The network keeps four logs: the cells the client
has sent and the exit recovered, and the cells the exit has emitted and the
client accepted.

A party that fails a cell stops reading, and with it the run.
-/

import NoPanic.Circuit.Line
import NoPanic.Client.Circuit
import NoPanic.Common.Reference
import NoPanic.Math.TransitionSystem

namespace NoPanic

open NoPanic.Math

/-- The parties of a circuit, the links and the logs. -/
structure Network where
  client : Circuit
  hops : List HopNode
  exit : ExitCircuitHandler
  exitInbox : List Message
  clientInbox : List Message
  sent : List RelayCell
  recovered : List RelayCell
  emitted : List RelayCell
  received : List RelayCell
  failed : Bool

/-- What may happen next in a circuit. -/
inductive NetworkEvent
  | /-- `Circuit::send_message`. -/
    send (cell : RelayCell)
  | /-- The keepalive task writes PADDING to the entry. -/
    padding (payload : Bytes)
  | /-- The hop at a position reads from the previous hop. -/
    relay (position : Nat)
  | /-- The hop at a position reads from the next hop. -/
    relayBack (position : Nat)
  | /-- The exit reads from the previous hop. -/
    exit
  | /-- The task of a stream at the exit seals and writes a cell. -/
    emit (cell : RelayCell)
  | /-- The circuit reader of the client reads. -/
    receive
  deriving DecidableEq, Repr

/-- A read on the way to the exit. -/
def NetworkEvent.Forwards : NetworkEvent → Prop
  | .relay _ | .exit => True
  | _ => False

/-- A read on the way to the client. -/
def NetworkEvent.Backwards : NetworkEvent → Prop
  | .relayBack _ | .receive => True
  | _ => False

/-- A cell that the task of a stream emits for a read from its destination. -/
structure RelayCell.Emittable (cell : RelayCell) : Prop where
  read : ∃ read : StreamRead, (cell.command, cell.data) ∈ read.cells
  fits : cell.data.length ≤ maxPayloadSize

/-- A stream task emits DATA and END. -/
theorem RelayCell.Emittable.command {cell : RelayCell} (hcell : cell.Emittable) :
    cell.command ≠ .padding ∧ cell.command ≠ .destroy := by
  obtain ⟨read, hread⟩ := hcell.read
  cases read with
  | closed => simp_all [StreamRead.cells]
  | data bytes =>
      obtain ⟨chunk, -, heq⟩ := List.mem_map.mp hread
      rw [← (Prod.mk.inj heq).1]
      decide
  | error message => simp_all [StreamRead.cells]

/-- The connection of the exit to its previous hop. -/
def exitPrevHop : ConnId := .prev 0

namespace Network

/-- Hand messages to the next party on the way to the exit. -/
def feedForward : List HopNode → List Message → List Message → List HopNode × List Message
  | [], exitInbox, msgs => ([], exitInbox ++ msgs)
  | node :: back, exitInbox, msgs => ({ node with inbox := node.inbox ++ msgs } :: back, exitInbox)

/-- Hand messages to the next party on the way to the client, past the hops
`front`. -/
def feedBackward (front : List HopNode) (clientInbox msgs : List Message) :
    List HopNode × List Message :=
  match front.reverse with
  | [] => ([], clientInbox ++ msgs)
  | node :: rest =>
      (({ node with backInbox := node.backInbox ++ msgs } :: rest).reverse, clientInbox)

/-- Write messages towards the client, from behind the hops `front`. -/
def writeBack (net : Network) (front back : List HopNode) (msgs : List Message) : Network :=
  if ∀ msg ∈ msgs, msg.data.length ≤ maxPayloadSize then
    { net with
      hops := (feedBackward front net.clientInbox msgs).1 ++ back
      clientInbox := (feedBackward front net.clientInbox msgs).2 }
  else { net with hops := front ++ back, failed := true }

/-! ## Where a circuit starts -/

/-- A circuit on which nothing has been sent yet: at least three relays, every hop
knows its next hop, and the ciphers of the client and the relays agree hop by
hop, keys and keystream positions both. -/
structure Ready (net : Network) : Prop where
  long : 3 ≤ net.hops.length + 1
  nextHop : ∀ node ∈ net.hops, node.handler.nextHop.isSome
  inboxes : ∀ node ∈ net.hops, node.inbox = [] ∧ node.backInbox = []
  ciphers : net.hops.map (fun node => node.handler.context.cipherPair) ++
    [net.exit.sharedState.map ExitCryptoState.cipher] = net.client.onionKeys.ciphers.map some
  clientDigests : net.client.onionKeys.forwardDigest = RunningDigest.new ∧
    net.client.onionKeys.backwardDigest = RunningDigest.new
  exitDigests : ∀ state ∈ net.exit.sharedState,
    state.forwardDigest = RunningDigest.new ∧ state.backwardDigest = RunningDigest.new
  idle : net.exitInbox = [] ∧ net.clientInbox = []
  fresh : net.sent = [] ∧ net.recovered = [] ∧ net.emitted = [] ∧ net.received = []
  running : net.failed = false

/-- No forward cell is on its way. -/
def ForwardIdle (net : Network) : Prop :=
  net.exitInbox = [] ∧ ∀ node ∈ net.hops, node.inbox = []

/-- No backward cell is on its way. -/
def BackwardIdle (net : Network) : Prop :=
  net.clientInbox = [] ∧ ∀ node ∈ net.hops, node.backInbox = []

/-- The exit's crypto state. -/
def exitState (net : Network) : ExitCryptoState :=
  net.exit.sharedState.getD (ExitCryptoState.new blankPair)

/-- What the ciphers of a circuit that is ready are, at the client and at the exit. -/
theorem Ready.pairs {net : Network} (h : net.Ready) :
    net.client.onionKeys.ciphers = net.hops.map HopNode.pair ++ [net.exitState.cipher] ∧
      net.exit.sharedState = some net.exitState ∧
        ∀ node ∈ net.hops, ∃ pair, node.handler.context.cipherPair = some pair := by
  obtain ⟨pairs, last, hciphers, hpairs, hlast⟩ := List.append_eq_map_iff.mp h.ciphers
  obtain ⟨rfl, hall⟩ := HopNode.pairs_of_ciphers hpairs.symm
  obtain ⟨pair, rest, rfl, hpair, hrest⟩ := List.map_eq_cons_iff.mp hlast
  rw [List.map_eq_nil_iff] at hrest
  subst hrest
  obtain ⟨state, hstate, rfl⟩ := Option.map_eq_some_iff.mp hpair.symm
  have hexit : net.exitState = state := by simp [exitState, hstate]
  exact ⟨by rw [hciphers, hexit], by rw [hstate, hexit], hall⟩

/-- Every hop of a circuit that is ready has its keys and its next hop. -/
theorem Ready.established {net : Network} (h : net.Ready) :
    ∀ node ∈ net.hops, node.handler.Established := fun node hnode =>
  ⟨h.pairs.2.2 node hnode, Option.isSome_iff_exists.mp (h.nextHop node hnode)⟩

variable [Primitives]

/-! ## What each party does -/

/-- The client sends a cell. -/
def clientSends (net : Network) (cell : RelayCell) : Network :=
  match net.client.sendMessage cell.streamId cell.command cell.data (.ok ()) with
  | (client, .error _) => { net with client, failed := true }
  | (client, .ok msg) =>
      { net with
        client
        hops := (feedForward net.hops net.exitInbox [msg]).1
        exitInbox := (feedForward net.hops net.exitInbox [msg]).2
        sent := net.sent ++ [cell] }

/-- The client's keepalive task sends PADDING. -/
def clientPads (net : Network) (payload : Bytes) : Network :=
  let msg := Message.padding net.client.circuitId payload
  { net with
    hops := (feedForward net.hops net.exitInbox [msg]).1
    exitInbox := (feedForward net.hops net.exitInbox [msg]).2 }

/-- The client reads a message. -/
def clientReads (net : Network) (msg : Message) (rest : List Message) : Network :=
  let out := net.client.readMessage msg
  match out.2.cell? with
  | none => { net with client := out.1, clientInbox := rest, failed := true }
  | some cell =>
      { net with client := out.1, clientInbox := rest, received := net.received ++ [cell] }

/-- A hop reads a message from its previous hop. What it writes to its next hop goes
on, a reply goes back. -/
def hopReads [AddrText] (net : Network) (front : List HopNode) (node : HopNode)
    (back : List HopNode) (io : RelayIo) (msg : Message) (rest : List Message) : Network :=
  let out := node.handleMessage io msg
  let node := { node with handler := out.handler, inbox := rest }
  match out.result with
  | .error _ => { net with hops := front ++ node :: back, failed := true }
  | .ok reply =>
      let msgs := out.effects.filterMap RelayEffect.sent?
      let onward := feedForward back net.exitInbox msgs
      { net with exitInbox := onward.2 }.writeBack front (node :: onward.1) reply.toList

/-- A hop reads a message from its next hop. DESTROY ends the circuit at an entry
relay, and any other message goes back under one more layer. -/
def hopReadsBack [AddrText] (net : Network) (front : List HopNode) (node : HopNode)
    (back : List HopNode) (msg : Message) (rest : List Message) : Network :=
  if node.role = .entry ∧ msg.command = .destroy then
    { net with hops := front ++ { node with backInbox := rest } :: back, failed := true }
  else
    let out := node.handleBackwardRelay msg
    let node := { node with handler := out.1, backInbox := rest }
    match out.2 with
    | .error _ => { net with hops := front ++ node :: back, failed := true }
    | .ok reply => net.writeBack front (node :: back) reply.toList

/-- The exit reads a message. -/
def exitReads (net : Network) (io : RelayIo) (msg : Message) (rest : List Message) : Network :=
  let out := net.exit.handleMessage io (some exitPrevHop) msg
  let net := { net with
    exit := out.handler
    exitInbox := rest
    recovered := net.recovered ++ out.effects.filterMap RelayEffect.recovered?
    emitted := net.emitted ++ out.effects.filterMap RelayEffect.sealed? }
  match out.result with
  | .error _ => { net with failed := true }
  | .ok reply =>
      net.writeBack net.hops [] (out.effects.filterMap RelayEffect.sent? ++ reply.toList)

/-- A stream task of the exit seals a cell and writes it. -/
def exitEmits (net : Network) (cell : RelayCell) : Network :=
  match net.exit.sharedState with
  | none => net
  | some state =>
      let out := state.sealCell net.exit.context.circuitId cell.streamId cell.command cell.data
      { net with
        exit := { net.exit with sharedState := some out.1 }
        emitted := net.emitted ++ [cell] }.writeBack net.hops [] [out.2]

/-! ## Runs -/

/-- One step of a circuit. Links deliver, and no error text of a connection attempt
is too long for a cell; the outside is free otherwise. -/
inductive Step [AddrText] : Network → NetworkEvent → Network → Prop
  | send (net : Network) (cell : RelayCell) (hrunning : net.failed = false)
      (hcell : cell.Sendable) : Step net (.send cell) (net.clientSends cell)
  | padding (net : Network) (payload : Bytes) (hrunning : net.failed = false)
      (hshort : payload.length < maxPayloadSize) :
      Step net (.padding payload) (net.clientPads payload)
  | relay (net : Network) (front : List HopNode) (node : HopNode) (back : List HopNode)
      (io : RelayIo) (msg : Message) (rest : List Message) (hrunning : net.failed = false)
      (hhops : net.hops = front ++ node :: back) (hinbox : node.inbox = msg :: rest)
      (hdelivers : io.Delivers) :
      Step net (.relay front.length) (net.hopReads front node back io msg rest)
  | relayBack (net : Network) (front : List HopNode) (node : HopNode) (back : List HopNode)
      (msg : Message) (rest : List Message) (hrunning : net.failed = false)
      (hhops : net.hops = front ++ node :: back) (hinbox : node.backInbox = msg :: rest) :
      Step net (.relayBack front.length) (net.hopReadsBack front node back msg rest)
  | exit (net : Network) (io : RelayIo) (msg : Message) (rest : List Message)
      (hrunning : net.failed = false) (hinbox : net.exitInbox = msg :: rest)
      (hdelivers : io.Delivers) (htexts : io.TextsFit) :
      Step net .exit (net.exitReads io msg rest)
  | emit (net : Network) (cell : RelayCell) (hrunning : net.failed = false)
      (hcell : cell.Emittable) : Step net (.emit cell) (net.exitEmits cell)
  | receive (net : Network) (msg : Message) (rest : List Message) (hrunning : net.failed = false)
      (hinbox : net.clientInbox = msg :: rest) :
      Step net .receive (net.clientReads msg rest)

/-- The runs of a circuit. -/
def system [AddrText] : TransitionSystem Network NetworkEvent where
  init := Ready
  step := Step

end Network

/-! ## A circuit of three hops -/

section

open Reference

/-- Session keys to start from. -/
def sampleKey (n : Nat) : SessionKey := ⟨FixedBytes.ofNat 16 n, FixedBytes.ofNat 16 (n + 1)⟩

/-- A hop that holds a session key and knows its next hop. -/
def sampleHop (role : HopRole) (n : Nat) : HopNode where
  role := role
  handler :=
    { context := (CircuitContext.new 1).activate (sampleKey n)
      keypair := KeyPair.fromSecretBytes (FixedBytes.ofNat 32 n)
      nextHop := some (NextHop.new (.next ⟨0, 0⟩ 0)) }
  inbox := []
  backInbox := []

/-- An entry, a middle and an exit, with the client's keys for them. -/
def sampleNetwork : Network where
  client := ⟨1, .ready, OnionKeys.new [sampleKey 1, sampleKey 3, sampleKey 5]
    [CipherPair.new (sampleKey 1), CipherPair.new (sampleKey 3), CipherPair.new (sampleKey 5)],
    ∅, 1⟩
  hops := [sampleHop .entry 1, sampleHop .middle 3]
  exit :=
    { ExitCircuitHandler.new 1 (KeyPair.fromSecretBytes (FixedBytes.ofNat 32 5)) with
      sharedState := some (ExitCryptoState.new (CipherPair.new (sampleKey 5))) }
  exitInbox := []
  clientInbox := []
  sent := []
  recovered := []
  emitted := []
  received := []
  failed := false

/-- The circuit is ready. -/
theorem sampleNetwork_ready : sampleNetwork.Ready where
  long := by decide
  nextHop := by simp [sampleNetwork, sampleHop]
  inboxes := by simp [sampleNetwork, sampleHop]
  ciphers := rfl
  clientDigests := ⟨rfl, rfl⟩
  exitDigests := by simp [sampleNetwork, ExitCryptoState.new]
  idle := ⟨rfl, rfl⟩
  fresh := ⟨rfl, rfl, rfl, rfl⟩
  running := rfl

/-- A request for a destination. -/
def sampleBegin : RelayCell := ⟨1, .begin, asBytes "example.org:80"⟩

/-- A client may send it. -/
theorem sampleBegin_sendable : sampleBegin.Sendable :=
  ⟨.inl rfl, by decide, fun _ => ⟨_, rfl⟩⟩

/-- An outside where every write succeeds and nothing can be reached. -/
def sampleIo : RelayIo where
  ySecret := FixedBytes.ofNat 32 2
  connect _ _ := .error "unreachable"
  write _ _ := .ok ()
  readCreated _ _ := .closed
  resolve _ := .error "unknown host"
  tcpConnect _ := .error "refused"
  destinationOpen _ := true

/-- Its links deliver. -/
theorem sampleIo_delivers : sampleIo.Delivers := fun _ _ => rfl

end

end NoPanic
