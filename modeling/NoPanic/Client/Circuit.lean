/-
# The client's end of a circuit

The client holds one cipher pair for every hop and two running digests. It sends
a cell by digesting it and masking it with every forward cipher, exit first, and
reads one by masking it with every backward cipher, entry first, and checking the
digest. A cell that fails the check tears the circuit down.

In both directions the client is an end in the sense of `OnionEnd`, with all
layers around its cells.
-/

import NoPanic.Circuit.Layers
import NoPanic.Math.HashMap

namespace NoPanic

open NoPanic.Math

/-- The keys of a circuit, entry first. -/
structure OnionKeys where
  sessionKeys : List SessionKey
  ciphers : List CipherPair
  forwardDigest : RunningDigest
  backwardDigest : RunningDigest
  deriving DecidableEq, Repr

/-- The state of a circuit at the client. -/
inductive CircuitState
  | building
  | ready
  | dirty
  | closing
  | closed
  deriving DecidableEq, Repr

/-- A circuit of the client. The channel of a stream is what has been sent on it
so far. -/
structure Circuit where
  circuitId : CircuitId
  state : CircuitState
  onionKeys : OnionKeys
  streamSenders : HashMap StreamId (List Message)
  nextStreamId : StreamId

namespace OnionKeys

/-- Keys with fresh digests. -/
def new (sessionKeys : List SessionKey) (ciphers : List CipherPair) : OnionKeys :=
  ⟨sessionKeys, ciphers, RunningDigest.new, RunningDigest.new⟩

/-- The client's end of the forward direction. -/
def forwardEnd (keys : OnionKeys) : OnionEnd :=
  ⟨keys.ciphers.map CipherPair.forward, keys.forwardDigest⟩

/-- The client's end of the backward direction. -/
def backwardEnd (keys : OnionKeys) : OnionEnd :=
  ⟨keys.ciphers.map CipherPair.backward, keys.backwardDigest⟩

end OnionKeys

section

variable [Primitives]

/-- Apply every forward cipher, the last one first. -/
def applyForwardAll : List CipherPair → Bytes → List CipherPair × Bytes
  | [], data => ([], data)
  | cipher :: ciphers, data =>
      let (ciphers, data) := applyForwardAll ciphers data
      let (cipher, data) := cipher.applyForward data
      (cipher :: ciphers, data)

/-- Apply every backward cipher, the first one first. -/
def applyBackwardAll : List CipherPair → Bytes → List CipherPair × Bytes
  | [], data => ([], data)
  | cipher :: ciphers, data =>
      let (cipher, data) := cipher.applyBackward data
      let (ciphers, data) := applyBackwardAll ciphers data
      (cipher :: ciphers, data)

/-- Applying every forward cipher masks with all of them. -/
theorem applyForwardAll_snd (ciphers : List CipherPair) (data : Bytes) :
    (applyForwardAll ciphers data).2 = maskAll (ciphers.map CipherPair.forward) data := by
  induction ciphers with
  | nil => rfl
  | cons cipher ciphers ih => simp [applyForwardAll, maskAll, ih]

/-- Applying every forward cipher advances the forward ciphers. -/
theorem applyForwardAll_forward (ciphers : List CipherPair) (data : Bytes) :
    (applyForwardAll ciphers data).1.map CipherPair.forward =
      advanceAll (ciphers.map CipherPair.forward) data := by
  induction ciphers with
  | nil => rfl
  | cons cipher ciphers ih =>
      have hlen : ((applyForwardAll ciphers data).2).length = data.length := by
        rw [applyForwardAll_snd, length_maskAll]
      simp only [applyForwardAll, List.map_cons, CipherPair.applyForward_forward, ih, advanceAll]
      rw [cipher.forward.applyKeystream_fst_congr hlen]

/-- Applying every forward cipher leaves the backward ones alone. -/
theorem applyForwardAll_backward (ciphers : List CipherPair) (data : Bytes) :
    (applyForwardAll ciphers data).1.map CipherPair.backward =
      ciphers.map CipherPair.backward := by
  induction ciphers with
  | nil => rfl
  | cons cipher ciphers ih => simp [applyForwardAll, ih]

/-- Applying every backward cipher masks with all of them. -/
theorem applyBackwardAll_snd (ciphers : List CipherPair) (data : Bytes) :
    (applyBackwardAll ciphers data).2 = maskAll (ciphers.map CipherPair.backward) data := by
  induction ciphers generalizing data with
  | nil => rfl
  | cons cipher ciphers ih => simp [applyBackwardAll, maskAll, ih, applyKeystream_maskAll]

/-- Applying every backward cipher advances the backward ciphers. -/
theorem applyBackwardAll_backward (ciphers : List CipherPair) (data : Bytes) :
    (applyBackwardAll ciphers data).1.map CipherPair.backward =
      advanceAll (ciphers.map CipherPair.backward) data := by
  induction ciphers generalizing data with
  | nil => rfl
  | cons cipher ciphers ih =>
      simp only [applyBackwardAll, List.map_cons, ih, advanceAll,
        CipherPair.applyBackward_backward, CipherPair.applyBackward_snd, List.cons.injEq,
        true_and]
      exact advanceAll_congr _ (by simp)

/-- Applying every backward cipher leaves the forward ones alone. -/
theorem applyBackwardAll_forward (ciphers : List CipherPair) (data : Bytes) :
    (applyBackwardAll ciphers data).1.map CipherPair.forward = ciphers.map CipherPair.forward := by
  induction ciphers generalizing data with
  | nil => rfl
  | cons cipher ciphers ih => simp [applyBackwardAll, ih]

namespace OnionKeys

/-- Add all layers to a cell for the exit. -/
def onionEncrypt (keys : OnionKeys) (data : Bytes) : OnionKeys × Bytes :=
  let (ciphers, data) := applyForwardAll keys.ciphers data
  ({ keys with ciphers }, data)

/-- Remove all layers from a cell from the exit. -/
def onionDecrypt (keys : OnionKeys) (data : Bytes) : OnionKeys × Bytes :=
  let (ciphers, data) := applyBackwardAll keys.ciphers data
  ({ keys with ciphers }, data)

end OnionKeys

namespace Circuit

/-- Send a cell: digest it, add all layers and write it to the entry relay. The
keys have advanced also when writing fails. -/
def sendMessage (c : Circuit) (streamId : StreamId) (command : MessageCommand) (data : Bytes)
    (entryWriter : Except String Unit) : Circuit × Except TorError Message :=
  let (forwardDigest, digest) := c.onionKeys.forwardDigest.update streamId command.toU8 data
  let onionKeys := { c.onionKeys with forwardDigest }
  let (onionKeys, encryptedData) := onionKeys.onionEncrypt data
  let msg := { Message.new c.circuitId streamId command encryptedData with digest }
  let c := { c with onionKeys }
  match msg.writeToStream entryWriter with
  | .error e => (c, .error e)
  | .ok () => (c, .ok msg)

/-- Send cells one after the other, and collect what is written. -/
def sendAll (c : Circuit) : List RelayCell → List Message
  | [] => []
  | cell :: cells =>
      match c.sendMessage cell.streamId cell.command cell.data (.ok ()) with
      | (c, .error _) => c.sendAll cells
      | (c, .ok msg) => msg :: c.sendAll cells

/-- What the reader of a circuit makes of a message. -/
inductive ReaderOutcome
  | destroyed
  | mismatch
  | delivered (msg : Message)
  deriving DecidableEq, Repr

/-- The circuit after its reader has stopped. -/
def close (c : Circuit) : Circuit := { c with state := .closed, streamSenders := ∅ }

/-- One round of the reader: a DESTROY or a digest mismatch stops it, anything
else goes to its stream. -/
def readMessage (c : Circuit) (msg : Message) : Circuit × ReaderOutcome :=
  if msg.command = .destroy then (c.close, .destroyed)
  else
    let (onionKeys, decryptedData) := c.onionKeys.onionDecrypt msg.data
    let (backwardDigest, valid) :=
      onionKeys.backwardDigest.verify msg.streamId msg.command.toU8 decryptedData msg.digest
    let c := { c with onionKeys := { onionKeys with backwardDigest } }
    if !valid then (c.close, .mismatch)
    else
      let decryptedMsg := Message.new msg.circuitId msg.streamId msg.command decryptedData
      match c.streamSenders.lookup msg.streamId with
      | none => (c, .delivered decryptedMsg)
      | some queued =>
          ({ c with streamSenders :=
              c.streamSenders.insert msg.streamId (queued ++ [decryptedMsg]) },
            .delivered decryptedMsg)

/-- The reader of a circuit over a sequence of messages, up to the one that stops it,
with the messages it delivers. -/
def readAll (c : Circuit) : List Message → Circuit × List Message
  | [] => (c, [])
  | msg :: msgs =>
      match c.readMessage msg with
      | (c, .delivered decryptedMsg) =>
          let (c, delivered) := c.readAll msgs
          (c, decryptedMsg :: delivered)
      | (c, _) => (c, [])

/-- A decrypted message as a cell. -/
def cellOf (msg : Message) : RelayCell := ⟨msg.streamId, msg.command, msg.data⟩

/-- What the reader delivers, as a cell. -/
def ReaderOutcome.cell? : ReaderOutcome → Option RelayCell
  | .delivered msg => some (cellOf msg)
  | _ => none

/-- Sending is encoding at the client's end, and the other direction is left
alone. -/
theorem sendMessage_eq (c : Circuit) (streamId : StreamId) (command : MessageCommand)
    {data : Bytes} (hfits : data.length ≤ maxPayloadSize) :
    (c.sendMessage streamId command data (.ok ())).2 =
        .ok (OnionEnd.encode c.circuitId c.onionKeys.forwardEnd ⟨streamId, command, data⟩).2 ∧
      (c.sendMessage streamId command data (.ok ())).1.onionKeys.forwardEnd =
        (OnionEnd.encode c.circuitId c.onionKeys.forwardEnd ⟨streamId, command, data⟩).1 ∧
      (c.sendMessage streamId command data (.ok ())).1.onionKeys.backwardEnd =
        c.onionKeys.backwardEnd ∧
      (c.sendMessage streamId command data (.ok ())).1.circuitId = c.circuitId := by
  have hwrite : ∀ msg : Message, msg.data.length = data.length →
      msg.writeToStream (.ok ()) = .ok () := fun msg hlen =>
    Message.writeToStream_ok (hlen ▸ hfits)
  have hlen : (applyForwardAll c.onionKeys.ciphers data).2.length = data.length := by
    rw [applyForwardAll_snd, length_maskAll]
  simp only [sendMessage, OnionKeys.onionEncrypt]
  rw [hwrite _ (by simpa [Message.new] using hlen)]
  refine ⟨?_, ?_, ?_, rfl⟩
  · simp only [OnionEnd.encode, OnionKeys.forwardEnd, applyForwardAll_snd]
  · simp only [OnionEnd.encode, OnionKeys.forwardEnd, applyForwardAll_forward]
  · simp only [OnionKeys.backwardEnd, applyForwardAll_backward]

/-- Sending cells one after the other is encoding them. -/
theorem sendAll_eq (c : Circuit) {cells : List RelayCell}
    (hfits : ∀ cell ∈ cells, cell.data.length ≤ maxPayloadSize) :
    c.sendAll cells =
      ((OnionEnd.channel c.circuitId).encodeAll c.onionKeys.forwardEnd cells).2 := by
  induction cells generalizing c with
  | nil => rfl
  | cons cell cells ih =>
      obtain ⟨hmsg, hforward, -, hid⟩ :=
        c.sendMessage_eq cell.streamId cell.command (hfits cell (by simp))
      generalize hout : c.sendMessage cell.streamId cell.command cell.data (.ok ()) = out
        at hmsg hforward hid
      obtain ⟨c', result⟩ := out
      simp only at hmsg hforward hid
      subst hmsg
      have hrest := ih c' fun other hother => hfits other (by simp [hother])
      simp only [sendAll, hout, hrest, hid, hforward, Channel.encodeAll, OnionEnd.channel_encode]

/-- Reading is decoding at the client's end, and the other direction is left
alone. -/
theorem readMessage_eq (c : Circuit) {msg : Message} (hcommand : msg.command ≠ .destroy) :
    (c.readMessage msg).2.cell? = (c.onionKeys.backwardEnd.decode msg).2 ∧
      (c.readMessage msg).1.onionKeys.backwardEnd = (c.onionKeys.backwardEnd.decode msg).1 ∧
      (c.readMessage msg).1.onionKeys.forwardEnd = c.onionKeys.forwardEnd ∧
      (c.readMessage msg).1.circuitId = c.circuitId := by
  simp only [readMessage, if_neg hcommand, OnionKeys.onionDecrypt, OnionEnd.decode,
    OnionKeys.backwardEnd, applyBackwardAll_snd]
  split
  · next hinvalid =>
      rw [Bool.not_eq_true'] at hinvalid
      simp [hinvalid, ReaderOutcome.cell?, close, OnionKeys.forwardEnd,
        applyBackwardAll_backward, applyBackwardAll_forward]
  · next hvalid =>
      rw [Bool.not_eq_true', Bool.not_eq_false] at hvalid
      split <;>
        simp [hvalid, ReaderOutcome.cell?, cellOf, Message.new, OnionKeys.forwardEnd,
          applyBackwardAll_backward, applyBackwardAll_forward]

/-- Delivering a message leaves the state of the circuit alone. -/
theorem readMessage_state (c : Circuit) {msg decryptedMsg : Message}
    (hdelivered : (c.readMessage msg).2 = .delivered decryptedMsg) :
    (c.readMessage msg).1.state = c.state := by
  rw [readMessage] at hdelivered ⊢
  split
  · next hdestroy => simp [hdestroy] at hdelivered
  · next hdestroy =>
      simp only [hdestroy, if_false] at hdelivered ⊢
      split
      · next hinvalid => simp [hinvalid] at hdelivered
      · split <;> rfl

/-- A message that does not decode closes the circuit. -/
theorem readMessage_mismatch (c : Circuit) (msg : Message) (hcommand : msg.command ≠ .destroy)
    (hdecode : (c.onionKeys.backwardEnd.decode msg).2 = none) :
    (c.readMessage msg).2 = .mismatch ∧ (c.readMessage msg).1.state = .closed := by
  have houtcome := (c.readMessage_eq hcommand).1
  rw [hdecode] at houtcome
  cases hvalid : ((c.onionKeys.onionDecrypt msg.data).1.backwardDigest.verify msg.streamId
      msg.command.toU8 (c.onionKeys.onionDecrypt msg.data).2 msg.digest).2 with
  | false => simp [readMessage, hcommand, hvalid, close]
  | true =>
      simp only [readMessage, if_neg hcommand, hvalid, Bool.not_true, Bool.false_eq_true,
        if_false] at houtcome
      split at houtcome <;> simp [ReaderOutcome.cell?] at houtcome

/-- A message that does not decode stops the reader, and closes the circuit. -/
theorem readAll_mismatch (c : Circuit) (msg : Message) (later : List Message)
    (hcommand : msg.command ≠ .destroy)
    (hdecode : (c.onionKeys.backwardEnd.decode msg).2 = none) :
    (c.readAll (msg :: later)).1.state = .closed := by
  obtain ⟨hmismatch, hclosed⟩ := c.readMessage_mismatch msg hcommand hdecode
  rw [readAll, show c.readMessage msg = ((c.readMessage msg).1, .mismatch) from
    Prod.ext rfl hmismatch]
  exact hclosed

/-- The reader goes on after a message that decodes. -/
theorem readAll_cons (c : Circuit) (msg : Message) (later : List Message) {cell : RelayCell}
    (hcommand : msg.command ≠ .destroy)
    (hdecode : (c.onionKeys.backwardEnd.decode msg).2 = some cell) :
    ∃ next : Circuit, next.onionKeys.backwardEnd = (c.onionKeys.backwardEnd.decode msg).1 ∧
      next.state = c.state ∧ (c.readAll (msg :: later)).1 = (next.readAll later).1 ∧
      (c.readAll (msg :: later)).2.map cellOf = cell :: (next.readAll later).2.map cellOf := by
  obtain ⟨houtcome, hbackward, -, -⟩ := c.readMessage_eq hcommand
  rw [hdecode] at houtcome
  cases hread : (c.readMessage msg).2 with
  | destroyed => simp [hread, ReaderOutcome.cell?] at houtcome
  | mismatch => simp [hread, ReaderOutcome.cell?] at houtcome
  | delivered decryptedMsg =>
      rw [hread, ReaderOutcome.cell?, Option.some.injEq] at houtcome
      refine ⟨(c.readMessage msg).1, hbackward, c.readMessage_state hread, ?_⟩
      rw [readAll, show c.readMessage msg = ((c.readMessage msg).1, .delivered decryptedMsg) from
        Prod.ext rfl hread]
      exact ⟨rfl, by rw [List.map_cons, houtcome]⟩

/-- The reader delivers what an end at the same place has encoded, and goes on. -/
theorem readAll_encodeAll (c : Circuit) (circuitId : CircuitId) {cells : List RelayCell}
    (hcells : ∀ cell ∈ cells, cell.command ≠ .destroy) :
    let out := c.readAll
      ((OnionEnd.channel circuitId).encodeAll c.onionKeys.backwardEnd cells).2
    out.2.map cellOf = cells ∧ out.1.state = c.state := by
  induction cells generalizing c with
  | nil => exact ⟨rfl, rfl⟩
  | cons cell cells ih =>
      have hdecode := OnionEnd.decode_encode circuitId c.onionKeys.backwardEnd cell
      obtain ⟨next, hbackward, hstate, hfirst, hsecond⟩ := c.readAll_cons
        (OnionEnd.encode circuitId c.onionKeys.backwardEnd cell).2
        ((OnionEnd.channel circuitId).encodeAll
          (OnionEnd.encode circuitId c.onionKeys.backwardEnd cell).1 cells).2
        (hcells cell (by simp)) (congrArg Prod.snd hdecode)
      have hrest := ih next fun other hother => hcells other (by simp [hother])
      rw [hbackward, hdecode] at hrest
      refine ⟨hsecond.trans ?_, ?_⟩
      · rw [hrest.1]
      · rw [← hstate, ← hrest.2]
        exact congrArg Circuit.state hfirst

end Circuit

end

end NoPanic
