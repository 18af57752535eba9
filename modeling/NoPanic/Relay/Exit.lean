/-
# The exit relay

The last hop. It removes the last layer, checks the running digest of every cell
it recovers, connects to destinations and answers over the same circuit. Its
cipher and its two digests are shared between the handler and the tasks of its
streams; every backward cell, whoever emits it, is sealed by `sealCell`.
-/

import NoPanic.Relay.Handler
import NoPanic.Math.HashMap
import Mathlib.Data.List.DropRight

namespace NoPanic

open NoPanic.Math

/-- An open stream, by its destination. -/
structure ExitStream where
  destination : String
  deriving DecidableEq, Repr

/-- The crypto state that the handler and its stream tasks share. -/
structure ExitCryptoState where
  cipher : CipherPair
  forwardDigest : RunningDigest
  backwardDigest : RunningDigest
  deriving DecidableEq, Repr

/-- The handler of an exit relay. -/
structure ExitCircuitHandler where
  context : CircuitContext
  keypair : KeyPair
  streams : HashMap StreamId ExitStream
  sharedState : Option ExitCryptoState

/-- Drop the zero characters at the end of a string. -/
def trimEndZeros (s : String) : String := String.ofList (s.toList.rdropWhile (· == Char.ofNat 0))

/-- Try the addresses of a destination in order, up to the first that connects.
The addresses tried come first in the result. -/
def connectFirst (tcpConnect : SocketAddr → Except String Unit) :
    String → List SocketAddr → List SocketAddr × Except String Unit
  | lastErr, [] => ([], .error lastErr)
  | _, addr :: addrs =>
      match tcpConnect addr with
      | .ok () => ([addr], .ok ())
      | .error e =>
          let (tried, result) := connectFirst tcpConnect e addrs
          (addr :: tried, result)

/-- `TcpStream::connect` of a destination: the addresses tried, and the outcome. -/
def RelayIo.connectTo (io : RelayIo) (dest : String) : List SocketAddr × Except String Unit :=
  match io.resolve dest with
  | .error e => ([], .error e)
  | .ok addrs => connectFirst io.tcpConnect "could not resolve to any address" addrs

namespace ExitCryptoState

variable [Primitives]

/-- The state of a fresh session. -/
def new (cipher : CipherPair) : ExitCryptoState := ⟨cipher, RunningDigest.new, RunningDigest.new⟩

/-- Remove the last layer of a cell and check its digest. -/
def openCell (state : ExitCryptoState) (msg : Message) : ExitCryptoState × Bytes × Bool :=
  let (cipher, decrypted) := state.cipher.applyForward msg.data
  let (forwardDigest, valid) :=
    state.forwardDigest.verify msg.streamId msg.command.toU8 decrypted msg.digest
  (⟨cipher, forwardDigest, state.backwardDigest⟩, decrypted, valid)

/-- Digest a backward cell, then add the first layer to it. -/
def sealCell (state : ExitCryptoState) (circuitId : CircuitId) (streamId : StreamId)
    (command : MessageCommand) (data : Bytes) : ExitCryptoState × Message :=
  let (backwardDigest, digest) := state.backwardDigest.update streamId command.toU8 data
  let (cipher, encrypted) := state.cipher.applyBackward data
  (⟨cipher, state.forwardDigest, backwardDigest⟩,
    { Message.new circuitId streamId command encrypted with digest })

/-- The forward cell that opens to the given data: what reaches an exit in this
state when its client stands at the same place. -/
def forwardCell (state : ExitCryptoState) (circuitId : CircuitId) (streamId : StreamId)
    (command : MessageCommand) (data : Bytes) : Message :=
  { Message.new circuitId streamId command (state.cipher.applyForward data).2 with
    digest := (state.forwardDigest.update streamId command.toU8 data).2 }

/-- The state after a cell with the given data has been opened. -/
def forwardNext (state : ExitCryptoState) (streamId : StreamId) (command : MessageCommand)
    (data : Bytes) : ExitCryptoState :=
  { state with
    cipher := (state.cipher.applyForward data).1
    forwardDigest := (state.forwardDigest.update streamId command.toU8 data).1 }

/-- A cell made for the exit's state opens to its data, and its digest passes. -/
theorem openCell_forwardCell (state : ExitCryptoState) (circuitId : CircuitId)
    (streamId : StreamId) (command : MessageCommand) (data : Bytes) :
    state.openCell (state.forwardCell circuitId streamId command data) =
      (state.forwardNext streamId command data, data, true) := by
  have hdata : (state.cipher.applyForward (state.cipher.applyForward data).2).2 = data := by simp
  have hcipher : (state.cipher.applyForward (state.cipher.applyForward data).2).1 =
      (state.cipher.applyForward data).1 := by
    simp [CipherPair.applyForward, Aes128Ctr.applyKeystream]
  have hvalid := (state.forwardDigest.verify_snd streamId command.toU8 data
    (state.forwardDigest.update streamId command.toU8 data).2).mpr rfl
  simp only [openCell, forwardCell, forwardNext, Message.new, hdata, hcipher, hvalid,
    RunningDigest.verify_fst]

end ExitCryptoState

namespace ExitCircuitHandler

/-- The handler of a new circuit. -/
def new (circuitId : CircuitId) (keypair : KeyPair) : ExitCircuitHandler :=
  ⟨CircuitContext.new circuitId, keypair, ∅, none⟩

/-- Close the circuit. -/
def close (h : ExitCircuitHandler) : ExitCircuitHandler :=
  { h with context := h.context.close, streams := ∅, sharedState := none }

section

variable [Primitives]

/-- Answer a CREATE. The cipher pair moves from the context to the shared state. -/
def handleCreate (h : ExitCircuitHandler) (io : RelayIo) (msg : Message) :
    Handled ExitCircuitHandler (Option Message) :=
  match sliceArray? msg.data 0 32 with
  | none => ⟨h, [], .error (.text "CREATE message too short")⟩
  | some clientPublic =>
      let (serverEphPub, auth, sessionKey) :=
        h.keypair.ntorServerHandshake io.ySecret clientPublic
      let context := h.context.activate sessionKey
      match context.cipherPair with
      | none =>
          ⟨{ h with context }, [], .error (.text "CipherPair not created during activate")⟩
      | some cipherPair =>
          let h := { h with
            context := { context with cipherPair := none },
            sharedState := some (ExitCryptoState.new cipherPair) }
          let response := Message.created h.context.circuitId (serverEphPub.1 ++ auth.1)
          ⟨h, [], .ok (some response)⟩

/-- Reply with a sealed END. The caller writes it. -/
def replyEnd (h : ExitCircuitHandler) (state : ExitCryptoState) (effects : List RelayEffect)
    (streamId : StreamId) (endData : Bytes) : Handled ExitCircuitHandler (Option Message) :=
  let (state, response) := state.sealCell h.context.circuitId streamId .end endData
  ⟨{ h with sharedState := some state }, effects ++ [.sealed streamId .end endData],
    .ok (some response)⟩

/-- Open a stream: connect to the destination in the payload, and write CONNECTED
to the previous hop or return END. -/
def handleBegin (h : ExitCircuitHandler) (io : RelayIo) (prevHopWrite : ConnId) (msg : Message) :
    Handled ExitCircuitHandler (Option Message) :=
  match h.sharedState with
  | none => ⟨h, [], .error (.text "No crypto state established")⟩
  | some state =>
      let (state, decrypted, valid) := state.openCell msg
      let h := { h with sharedState := some state }
      if !valid then ⟨h, [], .error (.text "Digest mismatch on BEGIN")⟩
      else
        let recovered := RelayEffect.recovered msg.streamId msg.command decrypted
        match fromUtf8 decrypted with
        | none => ⟨h, [recovered], .error (.utf8 "Invalid UTF-8 in destination")⟩
        | some text =>
            let destStr := trimEndZeros text
            let (tried, outcome) := io.connectTo destStr
            let effects := recovered :: tried.map RelayEffect.attempt
            match outcome with
            | .ok () =>
                let (state, response) :=
                  state.sealCell h.context.circuitId msg.streamId .connected []
                let h := { h with sharedState := some state }
                let effects := effects ++ [.sealed msg.streamId .connected []]
                match response.writeToStream (io.write prevHopWrite response) with
                | .error e => ⟨h, effects, .error (.tor e)⟩
                | .ok () =>
                    ⟨{ h with streams := h.streams.insert msg.streamId ⟨destStr⟩ },
                      effects ++ [.send prevHopWrite response, .openStream msg.streamId destStr],
                      .ok none⟩
            | .error e =>
                h.replyEnd state effects msg.streamId (asBytes s!"Connection failed: {e}")

/-- Pass data on to its stream. -/
def handleData (h : ExitCircuitHandler) (io : RelayIo) (msg : Message) :
    Handled ExitCircuitHandler (Option Message) :=
  match h.sharedState with
  | none => ⟨h, [], .error (.text "No crypto state established")⟩
  | some state =>
      let (state, decrypted, valid) := state.openCell msg
      let h := { h with sharedState := some state }
      if !valid then ⟨h, [], .error (.text "Digest mismatch on DATA")⟩
      else
        let recovered := RelayEffect.recovered msg.streamId msg.command decrypted
        match h.streams.lookup msg.streamId with
        | some _ =>
            if io.destinationOpen msg.streamId then
              ⟨h, [recovered, .queue msg.streamId decrypted], .ok none⟩
            else h.replyEnd state [recovered] msg.streamId (asBytes "Destination closed")
        | none => h.replyEnd state [recovered] msg.streamId (asBytes "Stream not found")

/-- Close a stream and answer with END, also when there is no such stream. -/
def handleEnd (h : ExitCircuitHandler) (msg : Message) :
    Handled ExitCircuitHandler (Option Message) :=
  match h.sharedState with
  | none => ⟨h, [], .error (.text "No crypto state established")⟩
  | some state =>
      let (state, decrypted, valid) := state.openCell msg
      let h := { h with sharedState := some state }
      if !valid then ⟨h, [], .error (.text "Digest mismatch on END")⟩
      else
        let recovered := RelayEffect.recovered msg.streamId msg.command decrypted
        let h := { h with streams := h.streams.erase msg.streamId }
        h.replyEnd state [recovered] msg.streamId []

/-- Handle a cell from the previous hop. -/
def handleMessage (h : ExitCircuitHandler) (io : RelayIo) (prevHopWrite : Option ConnId)
    (msg : Message) : Handled ExitCircuitHandler (Option Message) :=
  match msg.command with
  | .create => h.handleCreate io msg
  | .begin =>
      match prevHopWrite with
      | none => ⟨h, [], .error (.text "No prev_hop_write for BEGIN")⟩
      | some writer => h.handleBegin io writer msg
  | .data => h.handleData io msg
  | .end => h.handleEnd msg
  | .destroy => ⟨h.close, [], .ok none⟩
  | .padding => ⟨h, [], .ok none⟩
  | .created | .extend | .extended | .connected =>
      ⟨h, [], .error (.text ("Unexpected command: " ++ msg.command.debugName))⟩

/-- A CREATE with a whole key is answered with the relay's part of the
handshake, and the shared state starts from its key. -/
theorem handleCreate_eq (h : ExitCircuitHandler) (io : RelayIo) (circuitId : CircuitId)
    (clientPublic : FixedBytes 32) :
    h.handleCreate io (Message.create circuitId clientPublic.1) =
      let reply := h.keypair.ntorServerHandshake io.ySecret clientPublic
      ⟨{ h with
          context := { h.context.activate reply.2.2 with cipherPair := none }
          sharedState := some (ExitCryptoState.new (CipherPair.new reply.2.2)) }, [],
        .ok (some (Message.created h.context.circuitId (reply.1.1 ++ reply.2.1.1)))⟩ := by
  have hslice : sliceArray? clientPublic.1 0 32 = some clientPublic := by
    simpa using sliceArray?_append [] clientPublic []
  simp only [handleCreate, Message.create, Message.circuit, Message.new, hslice]
  rfl

/-- The destination that a cell asks for, when it is a BEGIN whose digest passes
and whose payload is text. -/
def destination? (h : ExitCircuitHandler) (msg : Message) : Option String :=
  match h.sharedState with
  | none => none
  | some state =>
      let (_, decrypted, valid) := state.openCell msg
      if msg.command = .begin ∧ valid = true then (fromUtf8 decrypted).map trimEndZeros else none

end

end ExitCircuitHandler

/-! ## The tasks of the streams -/

/-- What a read from a destination gives. -/
inductive StreamRead
  | closed
  | data (bytes : Bytes)
  | error (message : String)
  deriving DecidableEq, Repr

/-- Cut a byte string in chunks of `n + 1` bytes, the last one shorter. -/
def chunks (n : Nat) : Nat → Bytes → List Bytes
  | 0, _ => []
  | fuel + 1, data =>
      if data.isEmpty then [] else data.take (n + 1) :: chunks n fuel (data.drop (n + 1))

/-- Chunks are no longer than they may be. -/
theorem length_le_of_mem_chunks {n fuel : Nat} {data chunk : Bytes}
    (hmem : chunk ∈ chunks n fuel data) : chunk.length ≤ n + 1 := by
  induction fuel generalizing data with
  | zero => simp [chunks] at hmem
  | succ fuel ih =>
      rw [chunks] at hmem
      by_cases hempty : data.isEmpty
      · simp [hempty] at hmem
      · simp only [hempty, Bool.false_eq_true, if_false, List.mem_cons] at hmem
        rcases hmem with rfl | hrest
        · exact List.length_take_le _ _
        · exact ih hrest

/-- Cutting a byte string in chunks loses nothing. -/
theorem flatten_chunks (n : Nat) {fuel : Nat} {data : Bytes} (hfuel : data.length ≤ fuel) :
    (chunks n fuel data).flatten = data := by
  induction fuel generalizing data with
  | zero =>
      rw [List.length_eq_zero_iff.mp (Nat.le_zero.mp hfuel)]
      rfl
  | succ fuel ih =>
      rw [chunks]
      by_cases hempty : data.isEmpty
      · rw [if_pos hempty, List.isEmpty_iff.mp hempty]
        rfl
      · have hrest : (data.drop (n + 1)).length ≤ fuel := by
          rw [List.length_drop]
          omega
        rw [if_neg hempty, List.flatten_cons, ih hrest, List.take_append_drop]

/-- The backward cells a stream task emits for one read, before they are sealed,
in order. Each is sealed and written in one scope of the shared state. -/
def StreamRead.cells : StreamRead → List (MessageCommand × Bytes)
  | .closed => [(.end, [])]
  | .data bytes => (chunks (maxPayloadSize - 1) bytes.length bytes).map fun chunk => (.data, chunk)
  | .error message => [(.end, asBytes s!"Read error: {message}")]

end NoPanic
