/-
# A path of honest relays

The relays of a path, each with its own registry of circuits, and what happens
when the client writes a message to the first of them: the message runs down the
path as far as the handlers pass it on, and the answer comes back under the
layers of the relays it passes. A relay that is told to extend reaches the relay
behind it under that relay's address and fingerprint.

Every delivery is recorded as what each relay did with the message, so that it
can be seen which relay acted on a request and which ones passed it on.
-/

import NoPanic.Client.Build
import NoPanic.Relay.CircuitHandler

namespace NoPanic

open NoPanic.Math

/-- An honest relay of a path. -/
structure PathRelay where
  nodeType : NodeType
  address : SocketAddr
  fingerprint : String
  keypair : KeyPair
  /-- The ephemeral secret its next handshake draws. -/
  ySecret : FixedBytes 32
  circuits : HashMap CircuitId CircuitHandler

/-- What a relay did with a message. -/
inductive HopAct
  | created
  | extended
  | relayed
  | dropped
  deriving DecidableEq, Repr

/-- The relays after a message has been delivered to the first of them, what each
one that it reached did, and the answer. -/
structure Delivery where
  relays : List PathRelay
  acts : List HopAct
  reply : Option Message

/-- The connection a relay is reached on. -/
def pathPrevHop : ConnId := .prev 0

/-- The connection a relay opens for a circuit. -/
def pathNextHop : ConnId := .next ⟨0, 0⟩ 0

/-- What a relay did, from what its handler did outside. -/
def HopAct.ofEffects (effects : List RelayEffect) : HopAct :=
  if effects.any fun e => match e with | .dial .. => true | _ => false then .extended
  else if effects.any fun e => match e with | .send .. => true | _ => false then .relayed
  else .dropped

namespace PathRelay

/-- The outside of a relay on the path: it reaches the relay behind it, whose
answer to a message is given. Every write succeeds. -/
def io (relay : PathRelay) (next : Option PathRelay) (answer : Message → Option Message) :
    RelayIo where
  ySecret := relay.ySecret
  connect addr fingerprint :=
    match next with
    | none => .error "connection refused"
    | some next =>
        if addr = next.address ∧ fingerprint = next.fingerprint then .ok pathNextHop
        else .error "connection refused"
  write _ _ := .ok ()
  readCreated _ msg :=
    match answer msg with
    | none => .closed
    | some reply => .cell reply
  resolve _ := .error "unknown host"
  tcpConnect _ := .error "connection refused"
  destinationOpen _ := false

/-- Put a circuit into the registry. -/
def addCircuit (relay : PathRelay) (circuitId : CircuitId) (handler : CircuitHandler) :
    PathRelay :=
  { relay with circuits := relay.circuits.insert circuitId handler }

/-- The session key a relay holds for a circuit. -/
def sessionKey (relay : PathRelay) (circuitId : CircuitId) : Option SessionKey :=
  (relay.circuits.lookup circuitId).bind CircuitHandler.sessionKey

/-- The ciphers a relay holds for a circuit. -/
def cipherPair (relay : PathRelay) (circuitId : CircuitId) : Option CipherPair :=
  (relay.circuits.lookup circuitId).bind CircuitHandler.cipherPair

variable [Primitives] [AddrText]

/-- The reader of a circuit's next hop: what comes from there goes back under one
more layer. At an entry relay DESTROY is answered with DESTROY. -/
def passBack (relay : PathRelay) (circuitId : CircuitId) (back : Message) :
    PathRelay × Option Message :=
  if relay.nodeType = .entry ∧ back.command = .destroy then
    (relay, some (Message.destroy circuitId))
  else
    match relay.circuits.lookup back.circuitId with
    | none => (relay, none)
    | some handler =>
        match handler.handleBackwardRelay back with
        | (handler, .error _) => (relay.addCircuit back.circuitId handler, none)
        | (handler, .ok reply) => (relay.addCircuit back.circuitId handler, reply)

/-- Handle a CREATE: a new handler answers, and is put into the registry. -/
def handleCreate (relay : PathRelay) (io : RelayIo) (msg : Message) :
    PathRelay × Option Message :=
  let out := (CircuitHandler.new relay.nodeType msg.circuitId relay.keypair).handleMessage io
    (some pathPrevHop) msg
  match out.result with
  | .ok (some response) => (relay.addCircuit msg.circuitId out.handler, some response)
  | _ => (relay, none)

end PathRelay

section

variable [Primitives] [AddrText]

/-- Deliver a message to the first relay of a path. A handler writes at most one
message to its next hop; after an EXTEND the reader of the next hop is started. -/
def deliver : List PathRelay → Message → Delivery
  | [], _ => ⟨[], [], none⟩
  | relay :: behind, msg =>
      let io := relay.io behind.head? fun m => (deliver behind m).reply
      if msg.command = .create then
        let (relay, reply) := relay.handleCreate io msg
        ⟨relay :: behind, [.created], reply⟩
      else
        match relay.circuits.lookup msg.circuitId with
        | none => ⟨relay :: behind, [.dropped], none⟩
        | some handler =>
            let out := handler.handleMessage io (some pathPrevHop) msg
            let act := HopAct.ofEffects out.effects
            let onward : Delivery :=
              match out.effects.filterMap RelayEffect.sent? with
              | [] => ⟨behind, [], none⟩
              | m :: _ => deliver behind m
            match out.result with
            | .error _ =>
                ⟨relay.addCircuit msg.circuitId out.handler :: onward.relays,
                  act :: onward.acts, none⟩
            | .ok reply =>
                let handler :=
                  if msg.command = .extend ∨ msg.command = .extended then
                    out.handler.takeReader.1
                  else out.handler
                let relay := relay.addCircuit msg.circuitId handler
                match reply, onward.reply with
                | some response, _ =>
                    ⟨relay :: onward.relays, act :: onward.acts, some response⟩
                | none, none => ⟨relay :: onward.relays, act :: onward.acts, none⟩
                | none, some back =>
                    let (relay, response) := relay.passBack msg.circuitId back
                    ⟨relay :: onward.relays, act :: onward.acts, response⟩

/-- A path of relays and the builder's side of it: the ephemeral secrets it will
draw, what waits on the stream to the entry relay, and a record of what became
of every message it wrote. -/
structure PathWorld where
  relays : List PathRelay
  secrets : List (FixedBytes 32)
  inbox : List Message
  log : List (List HopAct)

/-- The outside of a builder whose path is honest. -/
def pathTransport : Transport PathWorld where
  connect w addr fingerprint :=
    match w.relays with
    | [] => (w, .error "connection refused")
    | entry :: _ =>
        if addr = entry.address ∧ fingerprint = entry.fingerprint then (w, .ok ())
        else (w, .error "connection refused")
  write w msg :=
    match msg.writeToStream (.ok ()) with
    | .error e => (w, .error e)
    | .ok () =>
        let out := deliver w.relays msg
        ({ w with
            relays := out.relays
            inbox := w.inbox ++ out.reply.toList
            log := w.log ++ [out.acts] }, .ok ())
  read w :=
    match w.inbox with
    | [] => (w, .timeout)
    | msg :: rest => ({ w with inbox := rest }, .cell msg)
  generate w :=
    match w.secrets with
    | [] => (w, FixedBytes.zero 32)
    | secret :: rest => ({ w with secrets := rest }, secret)

end

end NoPanic
