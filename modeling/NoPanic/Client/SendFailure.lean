/-
# Sends that are refused

A payload that is too long for a cell is refused, but only by the last step of a send: by
then the running digest has taken the payload in, and every cipher has advanced over it.
The client's end of the circuit moves exactly as if the cell had been sent, so it stands
ahead of the relays, and the exit accepts a later cell only where two tags of different
digests happen to agree.
-/

import NoPanic.Client.Circuit
import NoPanic.Common.Reference

namespace NoPanic

open NoPanic.Math

namespace Circuit

section

variable [Primitives]

/-- A call has left no trace: digest and keystream positions are as before, and a relay line
that stands where the client stood accepts everything that is sent afterwards. -/
structure Undone (c c' : Circuit) : Prop where
  digest : c'.onionKeys.forwardDigest = c.onionKeys.forwardDigest
  positions : c'.onionKeys.ciphers.map (fun pair => pair.forward.position) =
    c.onionKeys.ciphers.map fun pair => pair.forward.position
  later : ∀ (cell : RelayCell) (msg : Message), cell.data.length ≤ maxPayloadSize →
    (c'.sendMessage cell.streamId cell.command cell.data (.ok ())).2 = .ok msg →
      (c.onionKeys.forwardEnd.decode msg).2 = some cell

variable (c : Circuit) (streamId : StreamId) (command : MessageCommand) (data : Bytes)
  (entryWriter : Except String Unit)

/-- Whatever comes of a send, the client's end has moved past the cell. -/
theorem sendMessage_forwardEnd :
    (c.sendMessage streamId command data entryWriter).1.onionKeys.forwardEnd =
      (OnionEnd.encode c.circuitId c.onionKeys.forwardEnd ⟨streamId, command, data⟩).1 := by
  simp only [sendMessage, OnionKeys.onionEncrypt]
  split
  · simp only [OnionEnd.encode, OnionKeys.forwardEnd, applyForwardAll_forward]
  · simp only [OnionEnd.encode, OnionKeys.forwardEnd, applyForwardAll_forward]

variable {data}

/-- A send succeeds exactly when the payload fits a cell and the entry relay takes it. -/
theorem sendMessage_ok_iff :
    (∃ msg, (c.sendMessage streamId command data entryWriter).2 = .ok msg) ↔
      data.length ≤ maxPayloadSize ∧ entryWriter = .ok () := by
  have hlen : (applyForwardAll c.onionKeys.ciphers data).2.length = data.length := by
    rw [applyForwardAll_snd, length_maskAll]
  simp only [sendMessage, OnionKeys.onionEncrypt, Message.writeToStream, Message.new, hlen,
    gt_iff_lt]
  by_cases hlong : maxPayloadSize < data.length
  · simp [hlong, Nat.not_le.mpr hlong]
  · cases entryWriter with
    | error text => simp [hlong, Except.mapError]
    | ok taken => simp [hlong, Except.mapError, Nat.le_of_not_lt hlong]

/-- A payload that is too long is refused. -/
theorem sendMessage_tooLarge (hlong : maxPayloadSize < data.length) :
    (c.sendMessage streamId command data entryWriter).2 =
      .error (.payloadTooLarge data.length maxPayloadSize) := by
  have hlen : (applyForwardAll c.onionKeys.ciphers data).2.length = data.length := by
    rw [applyForwardAll_snd, length_maskAll]
  simp only [sendMessage, OnionKeys.onionEncrypt, Message.writeToStream, Message.new, hlen,
    gt_iff_lt, hlong, if_true]

/-- After a call that is refused the digest has taken the payload in. -/
theorem digest_tooLarge :
    (c.sendMessage streamId command data entryWriter).1.onionKeys.forwardDigest.state =
      c.onionKeys.forwardDigest.state ++ RunningDigest.record streamId command.toU8 data := by
  have hend := congrArg (fun s => s.digest.state)
    (sendMessage_forwardEnd c streamId command data entryWriter)
  exact hend

/-- Every cipher has advanced over the payload. -/
theorem positions_tooLarge :
    (c.sendMessage streamId command data entryWriter).1.onionKeys.ciphers.map
        (fun pair => pair.forward.position) =
      c.onionKeys.ciphers.map fun pair => pair.forward.position + data.length := by
  have hend := congrArg (fun s => s.ciphers.map Aes128Ctr.position)
    (sendMessage_forwardEnd c streamId command data entryWriter)
  simpa [OnionKeys.forwardEnd, OnionEnd.encode, advanceAll, Aes128Ctr.applyKeystream,
    Function.comp_def] using hend

/-- A cell that is sent after a refused call is accepted by relays that stood where the
client stood exactly when its tag, over the payload and the cell, is also the tag over what
the relays make of the cell. -/
theorem accepted_after_tooLarge_iff {cell : RelayCell} {msg : Message}
    (hfits : cell.data.length ≤ maxPayloadSize)
    (hsent : ((c.sendMessage streamId command data entryWriter).1.sendMessage cell.streamId
      cell.command cell.data (.ok ())).2 = .ok msg) :
    let before := c.onionKeys.forwardEnd
    let after := (OnionEnd.encode c.circuitId before ⟨streamId, command, data⟩).1
    (before.decode msg).2.isSome = true ↔
      (after.digest.update cell.streamId cell.command.toU8 cell.data).2 =
        (before.digest.update cell.streamId cell.command.toU8
          (maskAll before.ciphers (maskAll after.ciphers cell.data))).2 := by
  intro before after
  have hend := sendMessage_forwardEnd c streamId command data entryWriter
  have hmsg := (sendMessage_eq (c.sendMessage streamId command data entryWriter).1 cell.streamId
    cell.command hfits).1
  rw [hsent, hend] at hmsg
  obtain rfl := Except.ok.inj hmsg
  have hverify := before.digest.verify_snd cell.streamId cell.command.toU8
    (maskAll before.ciphers (maskAll after.ciphers cell.data))
    (after.digest.update cell.streamId cell.command.toU8 cell.data).2
  rw [← hverify]
  generalize hcheck : (before.digest.verify cell.streamId cell.command.toU8
    (maskAll before.ciphers (maskAll after.ciphers cell.data))
    (after.digest.update cell.streamId cell.command.toU8 cell.data).2).2 = valid
  have hdecode : (before.decode (OnionEnd.encode
      (c.sendMessage streamId command data entryWriter).1.circuitId after cell).2).2 =
        if valid then some ⟨cell.streamId, cell.command,
          maskAll before.ciphers (maskAll after.ciphers cell.data)⟩ else none := by
    rw [← hcheck]
    rfl
  rw [hdecode]
  cases valid <;> simp

/-- No call that is refused leaves no trace. -/
theorem not_undone_tooLarge (hlong : maxPayloadSize < data.length) :
    (c.sendMessage streamId command data entryWriter).2 =
        .error (.payloadTooLarge data.length maxPayloadSize) ∧
      ¬ Undone c (c.sendMessage streamId command data entryWriter).1 := by
  refine ⟨sendMessage_tooLarge c streamId command entryWriter hlong, fun hundone => ?_⟩
  have hstate := congrArg (fun digest => digest.state.length) hundone.digest
  simp only [digest_tooLarge, List.length_append, RunningDigest.record, List.length_cons] at hstate
  omega

end

/-! ## A payload of 498 bytes -/

section

open Reference

/-- A circuit over one relay. -/
def sampleOneHop : Circuit :=
  ⟨1, .ready, OnionKeys.new [] [CipherPair.new ⟨FixedBytes.ofNat 16 1, FixedBytes.ofNat 16 2⟩],
    ∅, 1⟩

/-- A payload one byte longer than a cell holds. -/
def longPayload : Bytes := List.replicate 498 0

theorem long_longPayload : maxPayloadSize < longPayload.length := by
  rw [longPayload, List.length_replicate]
  decide

/-- The long payload is refused, and leaves its trace. -/
theorem not_undone_tooLarge_longPayload :
    (sampleOneHop.sendMessage 1 .data longPayload (.ok ())).2 =
        .error (.payloadTooLarge longPayload.length maxPayloadSize) ∧
      ¬ Undone sampleOneHop (sampleOneHop.sendMessage 1 .data longPayload (.ok ())).1 :=
  not_undone_tooLarge sampleOneHop 1 .data (.ok ()) long_longPayload

/-- It is not so that a refused payload leaves no trace. -/
theorem not_undone_longPayload :
    ¬ ∀ (c : Circuit) streamId command data entryWriter, maxPayloadSize < data.length →
      (c.sendMessage streamId command data entryWriter).2 =
        .error (.payloadTooLarge data.length maxPayloadSize) →
      Undone c (c.sendMessage streamId command data entryWriter).1 := by
  intro hclaim
  have hrefused := sendMessage_tooLarge sampleOneHop 1 .data (.ok ()) long_longPayload
  have hundone := hclaim sampleOneHop 1 .data longPayload (.ok ()) long_longPayload hrefused
  have hpositions := hundone.positions
  rw [positions_tooLarge, longPayload, List.length_replicate] at hpositions
  exact absurd hpositions (by decide)

end

end Circuit

end NoPanic
