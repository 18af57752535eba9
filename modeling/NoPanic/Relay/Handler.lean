/-
# Circuit handlers: shared parts

What every circuit handler of a relay has: the circuit context, the next hop, and
what a handler sees of the world while it works on one cell. The outside (fresh
secrets, connections, resolvers, the streams it writes to) answers through
`RelayIo`; what the handler does outside is its list of effects. A handler that
fails keeps the changes it made before it failed.
-/

import NoPanic.Common.Ntor

namespace NoPanic

open NoPanic.Math

/-- A circuit of a relay: the previous-hop connection its CREATE came in on, and
the number of that CREATE there. -/
structure CircuitRef where
  conn : Nat
  serial : Nat
  deriving DecidableEq, Repr

/-- A connection of a relay: one it accepted, or one it opened for a circuit. -/
inductive ConnId
  | prev (n : Nat)
  | next (owner : CircuitRef) (attempt : Nat)
  deriving DecidableEq, Repr

/-- Why a handler fails. -/
inductive RelayError
  | text (message : String)
  | utf8 (context : String)
  | addrParse
  | io (message : String)
  | tor (e : TorError)
  deriving DecidableEq, Repr

/-- What comes back while a relay waits for CREATED. -/
inductive CreatedReply
  | timeout
  | readError (message : String)
  | closed
  | cell (msg : Message)
  deriving DecidableEq, Repr

/-- The answers of the outside during one call of a handler. -/
structure RelayIo where
  /-- The ephemeral secret a handshake draws. -/
  ySecret : FixedBytes 32
  /-- Connecting to the next hop, TLS included. -/
  connect : SocketAddr → String → Except String ConnId
  /-- Writing a cell to a connection. -/
  write : ConnId → Message → Except String Unit
  /-- What the next hop answers to a CREATE. -/
  readCreated : ConnId → Message → CreatedReply
  /-- Resolving a destination, in the order of the addresses. -/
  resolve : String → Except String (List SocketAddr)
  /-- Connecting to a destination address. -/
  tcpConnect : SocketAddr → Except String Unit
  /-- Whether the task of a stream still takes data. -/
  destinationOpen : StreamId → Bool

/-- What a handler does outside. Two marks say what a cell holds in the clear:
`recovered` a forward cell whose digest check passed, `sealed` a backward cell
before the exit digests and masks it. -/
inductive RelayEffect
  | dial (addr : SocketAddr) (fingerprint : String) (conn : ConnId)
  | send (conn : ConnId) (msg : Message)
  | recovered (streamId : StreamId) (command : MessageCommand) (data : Bytes)
  | sealed (streamId : StreamId) (command : MessageCommand) (data : Bytes)
  | attempt (addr : SocketAddr)
  | openStream (streamId : StreamId) (destination : String)
  | queue (streamId : StreamId) (data : Bytes)
  deriving DecidableEq, Repr

/-- The message that a handler has written. -/
def RelayEffect.sent? : RelayEffect → Option Message
  | .send _ msg => some msg
  | _ => none

/-- A handler after one call, what it did, and what it returns. -/
structure Handled (H : Type) (R : Type) where
  handler : H
  effects : List RelayEffect
  result : Except RelayError R

/-- The state of a circuit at a relay. -/
inductive RelayCircuitState
  | initializing
  | active
  | closing
  | closed
  deriving DecidableEq, Repr

/-- What every handler keeps of its circuit. -/
structure CircuitContext where
  circuitId : CircuitId
  state : RelayCircuitState
  sessionKey : Option SessionKey
  cipherPair : Option CipherPair
  deriving DecidableEq, Repr

namespace CircuitContext

/-- The context of a circuit without keys. -/
def new (circuitId : CircuitId) : CircuitContext := ⟨circuitId, .initializing, none, none⟩

/-- Take the session key into use, with a fresh cipher pair. -/
def activate (context : CircuitContext) (sessionKey : SessionKey) : CircuitContext :=
  { context with
    cipherPair := some (CipherPair.new sessionKey), sessionKey := some sessionKey,
    state := .active }

/-- Forget the keys. -/
def close (context : CircuitContext) : CircuitContext :=
  { context with state := .closed, sessionKey := none, cipherPair := none }

@[simp]
theorem activate_circuitId (context : CircuitContext) (key : SessionKey) :
    (context.activate key).circuitId = context.circuitId := rfl

@[simp]
theorem activate_sessionKey (context : CircuitContext) (key : SessionKey) :
    (context.activate key).sessionKey = some key := rfl

@[simp]
theorem activate_cipherPair (context : CircuitContext) (key : SessionKey) :
    (context.activate key).cipherPair = some (CipherPair.new key) := rfl

@[simp]
theorem close_circuitId (context : CircuitContext) :
    context.close.circuitId = context.circuitId := rfl

@[simp]
theorem close_cipherPair (context : CircuitContext) : context.close.cipherPair = none := rfl

end CircuitContext

/-- The connection to the next hop, split in its two halves. -/
structure NextHop where
  write : ConnId
  read : Option ConnId
  deriving DecidableEq, Repr

namespace NextHop

/-- Both halves of a connection. -/
def new (stream : ConnId) : NextHop := ⟨stream, some stream⟩

/-- Take the read half out. -/
def takeRead (hop : NextHop) : NextHop × Option ConnId := ({ hop with read := none }, hop.read)

end NextHop

end NoPanic
