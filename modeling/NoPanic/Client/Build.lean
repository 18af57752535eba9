/-
# Building a circuit

`CircuitBuilder::build` connects to the entry relay, runs the handshake with it
over CREATE, and then extends the circuit hop by hop: each EXTEND is masked with
the forward ciphers of all hops so far and each answer is unmasked with their
backward ciphers. The outside answers through `Transport`: connecting, one stream
to the entry relay, and fresh ephemeral secrets.
-/

import NoPanic.Client.Circuit
import NoPanic.Common.Ntor
import NoPanic.Relay.Hop

namespace NoPanic

open NoPanic.Math

/-- What a read from the entry relay gives while the builder waits for an answer. -/
inductive HandshakeRead
  | timeout
  | readError (message : String)
  | closed
  | cell (msg : Message)
  deriving DecidableEq, Repr

/-- The outside of the builder, with a state of its own. -/
structure Transport (W : Type) where
  /-- `TransportLayer::connect` to the entry relay. -/
  connect : W → SocketAddr → String → W × Except String Unit
  /-- Write a message to the stream. -/
  write : W → Message → W × Except TorError Unit
  /-- Read the next message from the stream. -/
  read : W → W × HandshakeRead
  /-- The secret of `NtorEphemeralKeyPair::generate`. -/
  generate : W → W × FixedBytes 32

/-- Why building fails. -/
inductive BuildError
  | text (message : String)
  | io (context : String) (message : String)
  | tor (context : String) (e : TorError)
  deriving DecidableEq, Repr

namespace CircuitBuilder

variable [Primitives]

/-- The texts in which the two handshakes differ. -/
structure HandshakeTexts where
  sendFailed : String
  timedOut : String
  readFailed : String
  closed : String
  /-- The command an answer has to have. -/
  expected : MessageCommand
  expectedFrom : String
  tooShort : String
  invalidData : String
  invalidAuth : String
  ntorFailed : String

/-- Send the request of a handshake and read the answer to it. -/
def exchange {W : Type} (transport : Transport W) (texts : HandshakeTexts) (w : W)
    (request : Message) : W × Except BuildError Message :=
  match transport.write w request with
  | (w, .error e) => (w, .error (.tor texts.sendFailed e))
  | (w, .ok ()) =>
      match transport.read w with
      | (w, .timeout) => (w, .error (.text texts.timedOut))
      | (w, .readError e) => (w, .error (.io texts.readFailed e))
      | (w, .closed) => (w, .error (.text texts.closed))
      | (w, .cell answer) =>
          if answer.command ≠ texts.expected then
            (w, .error (.text (texts.expectedFrom ++ answer.command.displayName)))
          else (w, .ok answer)

/-- Finish a handshake with the relay's part of it. -/
def finish (texts : HandshakeTexts) (secret ourPublic : FixedBytes 32) (node : NodeDescriptor)
    (data : Bytes) : Except BuildError SessionKey :=
  if data.length < 64 then
    .error (.text s!"{texts.tooShort}{data.length} bytes (need 64)")
  else
    match sliceArray? data 0 32 with
    | none => .error (.text texts.invalidData)
    | some serverEphPub =>
        match sliceArray? data 32 32 with
        | none => .error (.text texts.invalidAuth)
        | some auth =>
            match ntorClientFinishRaw secret ourPublic node.publicKey.bytes serverEphPub auth with
            | .error e => .error (.tor texts.ntorFailed e)
            | .ok sessionKey => .ok sessionKey

/-- The reply of an honest relay finishes the handshake with the relay's key. -/
theorem finish_eq (texts : HandshakeTexts) {x y b : FixedBytes 32} {node : NodeDescriptor}
    (hpublic : node.publicKey.bytes = Primitives.x25519Public b) (heph : Agree y x)
    (hstatic : Agree b x) :
    let reply := (KeyPair.fromSecretBytes b).ntorServerHandshake y (Primitives.x25519Public x)
    finish texts x (Primitives.x25519Public x) node (reply.1.1 ++ reply.2.1.1) =
      .ok reply.2.2 := by
  intro reply
  have hlen : (reply.1.1 ++ reply.2.1.1).length = 64 := by
    rw [List.length_append, reply.1.2, reply.2.1.2]
  have hfirst : sliceArray? (reply.1.1 ++ reply.2.1.1) 0 32 = some reply.1 := by
    simpa using sliceArray?_append [] reply.1 reply.2.1.1
  have hsecond : sliceArray? (reply.1.1 ++ reply.2.1.1) 32 32 = some reply.2.1 := by
    have hslice := sliceArray?_append reply.1.1 reply.2.1 []
    rwa [List.append_nil, reply.1.2] at hslice
  have haccept := ntorClientFinishRaw_ntorServer heph hstatic
  rw [finish, if_neg (by omega)]
  simp only [hfirst, hsecond, hpublic]
  rw [show reply = ntorServer y b (Primitives.x25519Public b) (Primitives.x25519Public x) from rfl,
    haccept]

/-- The texts of the handshake with the entry relay. -/
def createTexts : HandshakeTexts where
  sendFailed := "Failed to send CREATE"
  timedOut := "Timed out waiting for CREATED from entry node"
  readFailed := "Failed to read CREATED"
  closed := "Entry node closed connection during CREATE"
  expected := .created
  expectedFrom := "Expected CREATED from entry, got "
  tooShort := "CREATED response too short: "
  invalidData := "Invalid CREATED data"
  invalidAuth := "Invalid CREATED auth"
  ntorFailed := "ntor handshake failed with entry: "

/-- The texts of the handshake with a relay further on, by its address. -/
def extendTexts (address : String) : HandshakeTexts where
  sendFailed := "Failed to send EXTEND to " ++ address
  timedOut := "Timed out waiting for EXTENDED from " ++ address
  readFailed := "Failed to read EXTENDED from " ++ address
  closed := "Connection closed during EXTEND to " ++ address
  expected := .extended
  expectedFrom := "Expected EXTENDED from " ++ address ++ ", got "
  tooShort := "EXTENDED response too short: "
  invalidData := "Invalid EXTENDED data"
  invalidAuth := "Invalid EXTENDED auth"
  ntorFailed := "ntor handshake failed with " ++ address ++ ": "

/-- CREATE handshake with the entry relay. -/
def handshakeCreate {W : Type} (transport : Transport W) (w : W) (circuitId : CircuitId)
    (entry : NodeDescriptor) : W × Except BuildError SessionKey :=
  let (w, secret) := transport.generate w
  let ourPublic := Primitives.x25519Public secret
  match exchange transport createTexts w (Message.create circuitId ourPublic.1) with
  | (w, .error e) => (w, .error e)
  | (w, .ok created) => (w, finish createTexts secret ourPublic entry created.data)

variable [AddrText]

/-- EXTEND handshake with the next relay, over the ciphers of the hops so far. The
ciphers have advanced whatever comes of it. -/
def handshakeExtend {W : Type} (transport : Transport W) (w : W) (circuitId : CircuitId)
    (node : NodeDescriptor) (ciphers : List CipherPair) :
    W × List CipherPair × Except BuildError SessionKey :=
  let texts := extendTexts (AddrText.display node.address)
  let (w, secret) := transport.generate w
  let ourPublic := Primitives.x25519Public secret
  let payload : ExtendPayload :=
    ⟨AddrText.display node.address, ourPublic, node.tlsCertFingerprint⟩
  let (ciphers, masked) := applyForwardAll ciphers payload.encode
  match exchange transport texts w (Message.extend circuitId masked) with
  | (w, .error e) => (w, ciphers, .error e)
  | (w, .ok extended) =>
      let (ciphers, decrypted) := applyBackwardAll ciphers extended.data
      (w, ciphers, finish texts secret ourPublic node decrypted)

/-- The EXTEND loop over the hops that are left. -/
def extendAll {W : Type} (transport : Transport W) (circuitId : CircuitId) :
    W → List SessionKey → List CipherPair → List NodeDescriptor →
      W × Except BuildError (List SessionKey × List CipherPair)
  | w, sessionKeys, ciphers, [] => (w, .ok (sessionKeys, ciphers))
  | w, sessionKeys, ciphers, node :: path =>
      match handshakeExtend transport w circuitId node ciphers with
      | (w, _, .error e) => (w, .error e)
      | (w, ciphers, .ok key) =>
          extendAll transport circuitId w (sessionKeys ++ [key])
            (ciphers ++ [CipherPair.new key]) path

/-- Build a circuit along a path. -/
def build {W : Type} (transport : Transport W) (w : W) (circuitId : CircuitId)
    (path : List NodeDescriptor) : W × Except BuildError Circuit :=
  if path.length < 3 then
    (w, .error (.text s!"Circuit path must have at least 3 nodes, got {path.length}"))
  else
    match path with
    | [] => (w, .error (.text "Missing entry node"))
    | entry :: rest =>
        match transport.connect w entry.address entry.tlsCertFingerprint with
        | (w, .error e) =>
            (w, .error (.io ("Failed to connect to entry node at " ++
              AddrText.display entry.address) e))
        | (w, .ok ()) =>
            match handshakeCreate transport w circuitId entry with
            | (w, .error e) => (w, .error e)
            | (w, .ok entryKey) =>
                match extendAll transport circuitId w [entryKey] [CipherPair.new entryKey]
                    rest with
                | (w, .error e) => (w, .error e)
                | (w, .ok (sessionKeys, ciphers)) =>
                    (w, .ok ⟨circuitId, .ready, OnionKeys.new sessionKeys ciphers, ∅, 1⟩)

end CircuitBuilder

end NoPanic
