/-
# Cells

Commands and messages of the relay protocol, with the constructors the relays and
the client build them by. A link carries messages: every message is written as
one cell of a fixed size, and the only thing the size changes is that a payload
longer than a cell holds is refused before anything is written.
-/

import NoPanic.Math.ByteString

namespace NoPanic

open NoPanic.Math

/-- The id of a circuit on the wire. -/
abbrev CircuitId : Type := UInt32

/-- The id of a stream within a circuit. -/
abbrev StreamId : Type := UInt16

/-- The size of a cell. -/
def cellSize : Nat := 514

/-- The size of the length, circuit, stream and command fields. -/
def headerSize : Nat := 11

/-- The size of the payload length field. -/
def payloadLenSize : Nat := 2

/-- The size of the digest field. -/
def digestSize : Nat := 4

/-- The longest payload a cell holds. -/
def maxPayloadSize : Nat := cellSize - headerSize - payloadLenSize - digestSize

/-- The errors of the common crate that the modelled functions return. -/
inductive TorError
  | io (text : String)
  | payloadTooLarge (size max : Nat)
  | handshakeAuthFailed
  deriving DecidableEq, Repr

/-- What a cell asks for. -/
inductive MessageCommand
  | padding
  | create
  | created
  | extend
  | extended
  | destroy
  | begin
  | connected
  | data
  | end
  deriving DecidableEq, Repr

namespace MessageCommand

/-- The byte of a command. -/
def toU8 : MessageCommand → UInt8
  | .padding => 0x00
  | .create => 0x01
  | .created => 0x02
  | .extend => 0x03
  | .extended => 0x04
  | .destroy => 0x05
  | .begin => 0x10
  | .connected => 0x11
  | .data => 0x12
  | .end => 0x13

/-- The name a command is debug-printed by. -/
def debugName : MessageCommand → String
  | .padding => "Padding"
  | .create => "Create"
  | .created => "Created"
  | .extend => "Extend"
  | .extended => "Extended"
  | .destroy => "Destroy"
  | .begin => "Begin"
  | .connected => "Connected"
  | .data => "Data"
  | .end => "End"

/-- The name a command is displayed by. -/
def displayName : MessageCommand → String
  | .padding => "PADDING"
  | .create => "CREATE"
  | .created => "CREATED"
  | .extend => "EXTEND"
  | .extended => "EXTENDED"
  | .destroy => "DESTROY"
  | .begin => "BEGIN"
  | .connected => "CONNECTED"
  | .data => "DATA"
  | .end => "END"

end MessageCommand

/-- A message of the protocol. -/
structure Message where
  circuitId : CircuitId
  streamId : StreamId
  command : MessageCommand
  data : Bytes
  digest : FixedBytes 4
  deriving DecidableEq, Repr

namespace Message

/-- A message with a zero digest. -/
def new (circuitId : CircuitId) (streamId : StreamId) (command : MessageCommand)
    (data : Bytes) : Message :=
  ⟨circuitId, streamId, command, data, FixedBytes.zero 4⟩

/-- A circuit-level message: its stream id is zero. -/
def circuit (circuitId : CircuitId) (command : MessageCommand) (data : Bytes) : Message :=
  new circuitId 0 command data

/-- CREATE with the client's ephemeral key. -/
def create (circuitId : CircuitId) (publicKey : Bytes) : Message :=
  circuit circuitId .create publicKey

/-- CREATED with the relay's answer. -/
def created (circuitId : CircuitId) (publicKey : Bytes) : Message :=
  circuit circuitId .created publicKey

/-- EXTEND with its layered payload. -/
def extend (circuitId : CircuitId) (encryptedPayload : Bytes) : Message :=
  circuit circuitId .extend encryptedPayload

/-- EXTENDED with its layered answer. -/
def extended (circuitId : CircuitId) (responseData : Bytes) : Message :=
  circuit circuitId .extended responseData

/-- DESTROY. -/
def destroy (circuitId : CircuitId) : Message :=
  circuit circuitId .destroy []

/-- PADDING with a random payload. -/
def padding (circuitId : CircuitId) (payload : Bytes) : Message :=
  circuit circuitId .padding payload

/-- CONNECTED. -/
def connected (circuitId : CircuitId) (streamId : StreamId) : Message :=
  new circuitId streamId .connected []

/-- DATA with its payload: `Message::data`, whose name the field has here. -/
def dataMsg (circuitId : CircuitId) (streamId : StreamId) (payload : Bytes) : Message :=
  new circuitId streamId .data payload

/-- END with its reason. -/
def «end» (circuitId : CircuitId) (streamId : StreamId) (reason : Bytes) : Message :=
  new circuitId streamId .end reason

/-- Write a message to a stream: a payload over the limit is refused, and
otherwise the stream answers. -/
def writeToStream (msg : Message) (stream : Except String Unit) : Except TorError Unit :=
  if msg.data.length > maxPayloadSize then
    .error (.payloadTooLarge msg.data.length maxPayloadSize)
  else stream.mapError .io

/-- A message that fits a cell is written whenever the stream accepts it. -/
theorem writeToStream_ok {msg : Message} (hfits : msg.data.length ≤ maxPayloadSize) :
    msg.writeToStream (.ok ()) = .ok () := by
  simp [writeToStream, Nat.not_lt.mpr hfits, Except.mapError]

end Message

end NoPanic
