/-
# The exit's end of a circuit

Opening a cell is decoding at the exit's end of the forward direction, sealing
one is encoding at its end of the backward direction. For the cells a client
sends on its streams this describes a whole call of the handler: it recovers the
cell, and emits at most one answer, sealed and written in one piece.
-/

import NoPanic.Circuit.Layers
import NoPanic.Relay.Exit

namespace NoPanic

open NoPanic.Math

namespace RelayEffect

/-- The forward cell that a handler has recovered. -/
def recovered? : RelayEffect → Option RelayCell
  | .recovered streamId command data => some ⟨streamId, command, data⟩
  | _ => none

/-- The backward cell that a handler has sealed. -/
def sealed? : RelayEffect → Option RelayCell
  | .sealed streamId command data => some ⟨streamId, command, data⟩
  | _ => none

@[simp]
theorem recovered?_attempt (addrs : List SocketAddr) :
    (addrs.map attempt).filterMap recovered? = [] := by
  induction addrs <;> simp_all [recovered?]

@[simp]
theorem sealed?_attempt (addrs : List SocketAddr) :
    (addrs.map attempt).filterMap sealed? = [] := by
  induction addrs <;> simp_all [sealed?]

@[simp]
theorem sent?_attempt (addrs : List SocketAddr) :
    (addrs.map attempt).filterMap sent? = [] := by
  induction addrs <;> simp_all [sent?]

end RelayEffect

/-- Every write on a link succeeds. -/
def RelayIo.Delivers (io : RelayIo) : Prop := ∀ conn msg, io.write conn msg = .ok ()

/-- A message that fits a cell is written. -/
theorem RelayIo.Delivers.written {io : RelayIo} (hdelivers : io.Delivers) (conn : ConnId)
    (msg : Message) (hfits : msg.data.length ≤ maxPayloadSize) :
    msg.writeToStream (io.write conn msg) = .ok () := by
  rw [hdelivers]
  exact Message.writeToStream_ok hfits

/-- Why a destination cannot be reached fits a cell. -/
def RelayIo.TextsFit (io : RelayIo) : Prop :=
  ∀ dest e, (io.connectTo dest).2 = .error e →
    (asBytes s!"Connection failed: {e}").length ≤ maxPayloadSize

/-- Every destination can be reached. -/
def RelayIo.Connects (io : RelayIo) : Prop := ∀ dest, (io.connectTo dest).2 = .ok ()

/-- There is such an outside, whichever tasks take data. -/
theorem RelayIo.exists_connects (destinationOpen : StreamId → Bool) :
    ∃ io : RelayIo, io.Delivers ∧ io.TextsFit ∧ io.Connects ∧
      io.destinationOpen = destinationOpen := by
  let io : RelayIo :=
    ⟨FixedBytes.zero 32, fun _ _ => .error "unreachable", fun _ _ => .ok (), fun _ _ => .closed,
      fun _ => .ok [.v4 (FixedBytes.zero 4) 80], fun _ => .ok (), destinationOpen⟩
  have hconnects : io.Connects := fun _ => rfl
  refine ⟨io, fun _ _ => rfl, fun dest e he => ?_, hconnects, rfl⟩
  cases (hconnects dest).symm.trans he

/-- A cell that a client may send on one of its streams. -/
structure RelayCell.Sendable (cell : RelayCell) : Prop where
  command : cell.command = .begin ∨ cell.command = .data ∨ cell.command = .end
  fits : cell.data.length ≤ maxPayloadSize
  /-- A destination is text. -/
  text : cell.command = .begin → ∃ dest, cell.data = asBytes dest

/-- Padding belongs to no stream. -/
theorem RelayCell.Sendable.ne_padding {cell : RelayCell} (hcell : cell.Sendable) :
    cell.command ≠ .padding := by
  rcases hcell.command with hc | hc | hc <;> simp [hc]

variable [Primitives]

namespace ExitCryptoState

/-- The exit's end of the forward direction. -/
def forwardEnd (state : ExitCryptoState) : OnionEnd := ⟨[state.cipher.forward], state.forwardDigest⟩

/-- The exit's end of the backward direction. -/
def backwardEnd (state : ExitCryptoState) : OnionEnd :=
  ⟨[state.cipher.backward], state.backwardDigest⟩

/-- Opening a cell is decoding, and the other direction is left alone. -/
theorem openCell_eq {state : ExitCryptoState} {msg : Message} {cell : RelayCell}
    (hdecode : (state.forwardEnd.decode msg).2 = some cell) :
    ∃ state', state.openCell msg = (state', cell.data, true) ∧
      state'.forwardEnd = (state.forwardEnd.decode msg).1 ∧
      state'.backwardEnd = state.backwardEnd ∧
      cell.streamId = msg.streamId ∧ cell.command = msg.command := by
  simp only [OnionEnd.decode, forwardEnd, maskAll] at hdecode
  split at hdecode
  · next hvalid =>
      cases hdecode
      refine ⟨_, Prod.ext rfl (Prod.ext rfl ?_), rfl, rfl, rfl, rfl⟩
      simpa [openCell] using hvalid
  · cases hdecode

/-- Sealing a cell is encoding, and the other direction is left alone. -/
theorem sealCell_eq (state : ExitCryptoState) (circuitId : CircuitId) (cell : RelayCell) :
    ∃ state', state.sealCell circuitId cell.streamId cell.command cell.data =
        (state', (OnionEnd.encode circuitId state.backwardEnd cell).2) ∧
      state'.backwardEnd = (OnionEnd.encode circuitId state.backwardEnd cell).1 ∧
      state'.forwardEnd = state.forwardEnd :=
  ⟨_, rfl, rfl, rfl⟩

end ExitCryptoState

namespace ExitCircuitHandler

/-- What a call of the handler at an exit amounts to, over the two directions: the
cell it recovers, and what it answers. -/
structure Answers (circuitId : CircuitId) (state : ExitCryptoState) (msg : Message)
    (cell : RelayCell) (answer : Option RelayCell)
    (out : Handled ExitCircuitHandler (Option Message)) : Prop where
  /-- The circuit keeps its id. -/
  keepsId : out.handler.context.circuitId = circuitId
  /-- The forward end has read the message; the backward end has sent the answer,
  and exactly that is written. -/
  ends : ∃ state' reply, out.handler.sharedState = some state' ∧ out.result = .ok reply ∧
    state'.forwardEnd = (state.forwardEnd.decode msg).1 ∧
    state'.backwardEnd =
      ((OnionEnd.channel circuitId).encodeAll state.backwardEnd answer.toList).1 ∧
    out.effects.filterMap RelayEffect.sent? ++ reply.toList =
      ((OnionEnd.channel circuitId).encodeAll state.backwardEnd answer.toList).2
  /-- The cell is recovered. -/
  recovered : out.effects.filterMap RelayEffect.recovered? = [cell]
  /-- The answer is what is sealed. -/
  sealed : out.effects.filterMap RelayEffect.sealed? = answer.toList
  /-- An answer fits a cell and is no padding and no DESTROY. -/
  answer_fits : ∀ a ∈ answer, a.data.length ≤ maxPayloadSize ∧
    a.command ≠ .padding ∧ a.command ≠ .destroy

/-- A reply with END answers once more than what came before. -/
theorem answers_replyEnd {h : ExitCircuitHandler} {state state₁ : ExitCryptoState}
    {msg : Message} {cell : RelayCell} {effects : List RelayEffect} (endData : Bytes)
    (hforward : state₁.forwardEnd = (state.forwardEnd.decode msg).1)
    (hbackward : state₁.backwardEnd = state.backwardEnd)
    (hsent : effects.filterMap RelayEffect.sent? = [])
    (hrecovered : effects.filterMap RelayEffect.recovered? = [cell])
    (hsealed : effects.filterMap RelayEffect.sealed? = [])
    (hfits : endData.length ≤ maxPayloadSize) :
    Answers h.context.circuitId state msg cell (some ⟨msg.streamId, .end, endData⟩)
      (h.replyEnd state₁ effects msg.streamId endData) := by
  obtain ⟨state₂, hseal, hback, hfront⟩ :=
    state₁.sealCell_eq h.context.circuitId ⟨msg.streamId, .end, endData⟩
  rw [hbackward] at hseal hback
  simp only [replyEnd, hseal]
  refine ⟨rfl, ⟨state₂, _, rfl, rfl, hfront.trans hforward, hback, ?_⟩, ?_, ?_, ?_⟩
  · simp [hsent, RelayEffect.sent?]
  · simp [hrecovered, RelayEffect.recovered?]
  · simp [hsealed, RelayEffect.sealed?]
  · intro a ha
    cases ha
    exact ⟨hfits, by simp, by simp⟩

/-- A cell of one of the client's streams is recovered by the exit, whatever it
asks for. -/
theorem handleMessage_answers {h : ExitCircuitHandler} {io : RelayIo} (prevHop : ConnId)
    {msg : Message} {state : ExitCryptoState} {cell : RelayCell}
    (hstate : h.sharedState = some state)
    (hdecode : (state.forwardEnd.decode msg).2 = some cell) (hcell : cell.Sendable)
    (hdelivers : io.Delivers) (htexts : io.TextsFit) :
    ∃ answer, Answers h.context.circuitId state msg cell answer
      (h.handleMessage io (some prevHop) msg) := by
  obtain ⟨state₁, hopen, hforward, hbackward, hstream, hcommand⟩ :=
    ExitCryptoState.openCell_eq hdecode
  have hcell_eq : cell = ⟨msg.streamId, msg.command, cell.data⟩ := by
    rw [← hstream, ← hcommand]
  rcases hcell.command with hbegin | hdata | hend
  · -- BEGIN: the destination is text, and either it is reached or not
    obtain ⟨dest, hdest⟩ := hcell.text hbegin
    have hmsg : msg.command = .begin := hcommand ▸ hbegin
    simp only [handleMessage, hmsg, handleBegin, hstate, hopen, Bool.not_true, Bool.false_eq_true,
      if_false, hdest,
      fromUtf8_asBytes]
    cases houtcome : (io.connectTo (trimEndZeros dest)).2 with
    | ok _ =>
        obtain ⟨state₂, hseal, hback, hfront⟩ :=
          state₁.sealCell_eq h.context.circuitId ⟨msg.streamId, .connected, []⟩
        have hwrite := hdelivers.written prevHop (OnionEnd.encode h.context.circuitId
          state₁.backwardEnd ⟨msg.streamId, .connected, []⟩).2 (by simp)
        simp only at hseal
        simp only [hseal, hwrite]
        rw [hbackward] at hback
        refine ⟨some ⟨msg.streamId, .connected, []⟩, rfl,
          ⟨state₂, none, rfl, rfl, hfront.trans hforward, hback, ?_⟩, ?_, ?_, ?_⟩
        · simp [List.filterMap_cons, RelayEffect.sent?, hbackward]
        · simp only [List.cons_append, List.filterMap_cons, RelayEffect.recovered?,
            List.filterMap_append, RelayEffect.recovered?_attempt]
          rw [← hdest, hcell_eq, hmsg]
          rfl
        · simp [List.filterMap_cons, RelayEffect.sealed?]
        · intro a ha
          cases ha
          exact ⟨by simp, by simp, by simp⟩
    | error e =>
        refine ⟨_, answers_replyEnd (h := { h with sharedState := some state₁ }) _ hforward
          hbackward ?_ ?_ ?_ (htexts _ e houtcome)⟩
        · simp [RelayEffect.sent?]
        · simp only [List.filterMap_cons, RelayEffect.recovered?, RelayEffect.recovered?_attempt]
          rw [← hdest, hcell_eq, hmsg]
        · simp [RelayEffect.sealed?]
  · -- DATA: the stream takes it, has stopped, or is not there
    have hmsg : msg.command = .data := hcommand ▸ hdata
    have hrecovered : [RelayEffect.recovered msg.streamId .data cell.data].filterMap
        RelayEffect.recovered? = [cell] := by
      rw [hcell_eq, hmsg]
      rfl
    simp only [handleMessage, hmsg, handleData, hstate, hopen, Bool.not_true, Bool.false_eq_true,
      if_false]
    split
    · split
      · refine ⟨none, rfl, ⟨state₁, none, rfl, rfl, hforward, hbackward, rfl⟩, ?_, rfl, by simp⟩
        simpa [List.filterMap_cons, RelayEffect.recovered?] using hrecovered
      · exact ⟨_, answers_replyEnd (h := { h with sharedState := some state₁ }) _ hforward
          hbackward rfl hrecovered rfl (by decide)⟩
    · exact ⟨_, answers_replyEnd (h := { h with sharedState := some state₁ }) _ hforward
        hbackward rfl hrecovered rfl (by decide)⟩
  · -- END: the stream is closed, if there is one
    have hmsg : msg.command = .end := hcommand ▸ hend
    have hrecovered : [RelayEffect.recovered msg.streamId .end cell.data].filterMap
        RelayEffect.recovered? = [cell] := by
      rw [hcell_eq, hmsg]
      rfl
    simp only [handleMessage, hmsg, handleEnd, hstate, hopen, Bool.not_true, Bool.false_eq_true,
      if_false]
    exact ⟨_, answers_replyEnd (h := { h with
        sharedState := some state₁, streams := h.streams.erase msg.streamId }) _ hforward
      hbackward rfl hrecovered rfl (by decide)⟩

end ExitCircuitHandler

end NoPanic
