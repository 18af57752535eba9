/-
# The session of a circuit handler

A session starts with CREATE and ends with DESTROY. No other cell, from either side,
and nothing that the tasks around a handler do, changes the id, the state or the
session key of a circuit; only the places of its ciphers and digests move.
-/

import NoPanic.Relay.CircuitHandler

namespace NoPanic

open NoPanic.Math

/-- Two contexts of one session. -/
structure SameSession (before after : CircuitContext) : Prop where
  circuitId : after.circuitId = before.circuitId
  state : after.state = before.state
  sessionKey : after.sessionKey = before.sessionKey

theorem SameSession.refl (context : CircuitContext) : SameSession context context :=
  ⟨rfl, rfl, rfl⟩

namespace CircuitHandler

/-- Nobody but the handler itself changes a session through the crypto state. -/
@[simp]
theorem setShared_context (handler : CircuitHandler) (state : ExitCryptoState) :
    (handler.setShared state).context = handler.context := by
  cases handler <;> rfl

/-- Taking the read half of the next hop stays in the session. -/
@[simp]
theorem takeReader_context (handler : CircuitHandler) :
    handler.takeReader.1.context = handler.context := by
  have hhop : ∀ h : HopHandler, (HopHandler.takeReader h).1.context = h.context := by
    intro h
    unfold HopHandler.takeReader
    split <;> rfl
  cases handler with
  | entry h => exact hhop h
  | middle h => exact hhop h
  | exit h => rfl

end CircuitHandler

section

variable [Primitives] {io : RelayIo}

namespace HopHandler

/-- EXTEND up to the answer of the next hop stays in the session. -/
theorem openExtend_session [AddrText] (texts : HopTexts) (h : HopHandler) (msg : Message) :
    SameSession h.context (openExtend texts h io msg).handler.context := by
  unfold openExtend
  split
  · exact .refl _
  · dsimp only
    split
    · exact ⟨rfl, rfl, rfl⟩
    · split
      · exact ⟨rfl, rfl, rfl⟩
      · split
        · exact ⟨rfl, rfl, rfl⟩
        · split
          · exact ⟨rfl, rfl, rfl⟩
          · split
            · exact ⟨rfl, rfl, rfl⟩
            · exact ⟨rfl, rfl, rfl⟩
            · exact ⟨rfl, rfl, rfl⟩
            · split
              · exact ⟨rfl, rfl, rfl⟩
              · exact ⟨rfl, rfl, rfl⟩

/-- The end of EXTEND stays in the session. -/
theorem finishExtend_session (h : HopHandler) (conn : ConnId) (createdMsg : Message) :
    SameSession h.context (finishExtend h conn createdMsg).1.context := by
  unfold finishExtend
  dsimp only
  split
  · exact .refl _
  · exact ⟨rfl, rfl, rfl⟩

/-- Passing a cell on stays in the session. -/
theorem handleRelay_session (texts : HopTexts) (h : HopHandler) (msg : Message) :
    SameSession h.context (handleRelay texts h io msg).handler.context := by
  unfold handleRelay
  split
  · exact .refl _
  · dsimp only
    split
    · exact ⟨rfl, rfl, rfl⟩
    · split
      · exact ⟨rfl, rfl, rfl⟩
      · exact ⟨rfl, rfl, rfl⟩

/-- Adding a layer to a backward cell stays in the session. -/
theorem handleBackwardRelay_session (texts : HopTexts) (h : HopHandler) (msg : Message) :
    SameSession h.context (handleBackwardRelay texts h msg).1.context := by
  unfold handleBackwardRelay
  split
  · exact .refl _
  · exact ⟨rfl, rfl, rfl⟩

end HopHandler

/-- An exit handler keeps its context at any cell but CREATE and DESTROY. -/
theorem ExitCircuitHandler.handleMessage_context (h : ExitCircuitHandler)
    (prevHop : Option ConnId) {msg : Message} (hcreate : msg.command ≠ .create)
    (hdestroy : msg.command ≠ .destroy) :
    (h.handleMessage io prevHop msg).handler.context = h.context := by
  unfold ExitCircuitHandler.handleMessage
  split
  · next hcommand => exact absurd hcommand hcreate
  · split
    · rfl
    · unfold handleBegin
      split
      · rfl
      · dsimp only
        split
        · rfl
        · split
          · rfl
          · split
            · split <;> rfl
            · rfl
  · unfold handleData
    split
    · rfl
    · dsimp only
      split
      · rfl
      · split
        · split <;> rfl
        · rfl
  · unfold handleEnd
    split
    · rfl
    · dsimp only
      split <;> rfl
  · next hcommand => exact absurd hcommand hdestroy
  · rfl
  · rfl
  · rfl
  · rfl
  · rfl

namespace CircuitHandler

variable [AddrText]

/-- A cell of the previous hop other than CREATE and DESTROY stays in the session. -/
theorem handleMessage_session (handler : CircuitHandler) (prevHop : Option ConnId) {msg : Message}
    (hcreate : msg.command ≠ .create) (hdestroy : msg.command ≠ .destroy) :
    SameSession handler.context (handler.handleMessage io prevHop msg).handler.context := by
  cases handler with
  | entry h =>
      show SameSession h.context (EntryCircuitHandler.handleMessage h io msg).handler.context
      unfold EntryCircuitHandler.handleMessage
      split
      · next hcommand => exact absurd hcommand hcreate
      · split
        · exact HopHandler.handleRelay_session _ h msg
        · unfold EntryCircuitHandler.handleExtend
          have hopen : SameSession h.context
              (HopHandler.openExtend EntryCircuitHandler.texts h io msg).handler.context :=
            HopHandler.openExtend_session EntryCircuitHandler.texts h msg
          split
          · next heq => rwa [heq] at hopen
          · next h' effects conn createdMsg heq =>
            rw [heq] at hopen
            have hfinish := HopHandler.finishExtend_session h' conn createdMsg
            exact ⟨hfinish.circuitId.trans hopen.circuitId, hfinish.state.trans hopen.state,
              hfinish.sessionKey.trans hopen.sessionKey⟩
      · exact HopHandler.handleRelay_session _ h msg
      · exact HopHandler.handleRelay_session _ h msg
      · exact HopHandler.handleRelay_session _ h msg
      · exact HopHandler.handleRelay_session _ h msg
      · next hcommand => exact absurd hcommand hdestroy
      · exact .refl _
      · exact .refl _
      · exact .refl _
  | middle h =>
      show SameSession h.context (MiddleCircuitHandler.handleMessage h io msg).handler.context
      unfold MiddleCircuitHandler.handleMessage
      split
      · next hcommand => exact absurd hcommand hcreate
      · split
        · exact HopHandler.handleRelay_session _ h msg
        · unfold MiddleCircuitHandler.handleExtend
          have hopen : SameSession h.context
              (HopHandler.openExtend MiddleCircuitHandler.texts h io msg).handler.context :=
            HopHandler.openExtend_session MiddleCircuitHandler.texts h msg
          split
          · next heq => rwa [heq] at hopen
          · next h' effects conn createdMsg heq =>
            rw [heq] at hopen
            split
            · exact hopen
            · have hfinish := HopHandler.finishExtend_session h' conn createdMsg
              exact ⟨hfinish.circuitId.trans hopen.circuitId, hfinish.state.trans hopen.state,
                hfinish.sessionKey.trans hopen.sessionKey⟩
      · unfold MiddleCircuitHandler.handleExtended
        split <;> exact .refl _
      · exact HopHandler.handleRelay_session _ h msg
      · exact HopHandler.handleRelay_session _ h msg
      · exact HopHandler.handleRelay_session _ h msg
      · exact HopHandler.handleRelay_session _ h msg
      · next hcommand => exact absurd hcommand hdestroy
      · exact .refl _
      · exact .refl _
  | exit h =>
      show SameSession h.context (h.handleMessage io prevHop msg).handler.context
      rw [h.handleMessage_context prevHop hcreate hdestroy]
      exact .refl _

/-- A cell of the next hop stays in the session. -/
theorem handleBackwardRelay_session (handler : CircuitHandler) (msg : Message) :
    SameSession handler.context (handler.handleBackwardRelay msg).1.context := by
  cases handler with
  | entry h => exact HopHandler.handleBackwardRelay_session _ h msg
  | middle h => exact HopHandler.handleBackwardRelay_session _ h msg
  | exit h => exact .refl _

end CircuitHandler

end

end NoPanic
