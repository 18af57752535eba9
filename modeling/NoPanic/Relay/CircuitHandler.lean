/-
# Circuit handlers of a relay

The three kinds of handler behind one type, as a relay's registry holds them. For
entry and middle handlers the module says what one call does in the situations of
a circuit under construction: the handler is created, it is asked to extend to a
next hop that answers, or it has a next hop already and passes the request on.
-/

import NoPanic.Relay.Exit
import NoPanic.Relay.Middle

namespace NoPanic

open NoPanic.Math

/-- The handler of a circuit at a relay. -/
inductive CircuitHandler
  | entry (handler : EntryCircuitHandler)
  | middle (handler : MiddleCircuitHandler)
  | exit (handler : ExitCircuitHandler)

namespace CircuitHandler

/-- The handler a relay makes for a CREATE. -/
def new (nodeType : NodeType) (circuitId : CircuitId) (keypair : KeyPair) : CircuitHandler :=
  match nodeType with
  | .entry => .entry (EntryCircuitHandler.new circuitId keypair)
  | .middle => .middle (MiddleCircuitHandler.new circuitId keypair)
  | .exit => .exit (ExitCircuitHandler.new circuitId keypair)

/-- The kind of a handler. -/
def nodeType : CircuitHandler → NodeType
  | .entry _ => .entry
  | .middle _ => .middle
  | .exit _ => .exit

/-- The circuit context. -/
def context : CircuitHandler → CircuitContext
  | .entry h => h.context
  | .middle h => h.context
  | .exit h => h.context

/-- The circuit id. -/
def circuitId (h : CircuitHandler) : CircuitId := h.context.circuitId

/-- The session key. -/
def sessionKey (h : CircuitHandler) : Option SessionKey := h.context.sessionKey

/-- The cipher pair. An exit keeps it in its shared state. -/
def cipherPair : CircuitHandler → Option CipherPair
  | .entry h => h.context.cipherPair
  | .middle h => h.context.cipherPair
  | .exit h => h.sharedState.map ExitCryptoState.cipher

/-- The next hop. An exit has none. -/
def nextHop : CircuitHandler → Option NextHop
  | .entry h => h.nextHop
  | .middle h => h.nextHop
  | .exit _ => none

/-- The state of the circuit. -/
def state (h : CircuitHandler) : RelayCircuitState := h.context.state

/-- The crypto state that an exit shares with the tasks of its streams. -/
def sharedState : CircuitHandler → Option ExitCryptoState
  | .exit h => h.sharedState
  | _ => none

/-- The open streams. Only an exit has any. -/
def streams : CircuitHandler → HashMap StreamId ExitStream
  | .exit h => h.streams
  | _ => ∅

/-- The handler after somebody else has changed the shared crypto state. -/
def setShared (state : ExitCryptoState) : CircuitHandler → CircuitHandler
  | .exit h => .exit { h with sharedState := h.sharedState.map fun _ => state }
  | h => h

/-- Close the circuit. -/
def close : CircuitHandler → CircuitHandler
  | .entry h => .entry (EntryCircuitHandler.close h)
  | .middle h => .middle (MiddleCircuitHandler.close h)
  | .exit h => .exit h.close

/-- `spawn_nexthop_reader`: take the read half of the next hop for a background
reader. -/
def takeReader : CircuitHandler → CircuitHandler × Option ConnId
  | .entry h => (.entry (HopHandler.takeReader h).1, (HopHandler.takeReader h).2)
  | .middle h => (.middle (HopHandler.takeReader h).1, (HopHandler.takeReader h).2)
  | .exit h => (.exit h, none)

/-- The same call at another handler type. -/
def lift {H : Type} (wrap : H → CircuitHandler) (out : Handled H (Option Message)) :
    Handled CircuitHandler (Option Message) :=
  ⟨wrap out.handler, out.effects, out.result⟩

section

variable [Primitives] [AddrText]

/-- Handle a cell from the previous hop. -/
def handleMessage (handler : CircuitHandler) (io : RelayIo) (prevHopWrite : Option ConnId)
    (msg : Message) : Handled CircuitHandler (Option Message) :=
  match handler with
  | .entry h => lift .entry (EntryCircuitHandler.handleMessage h io msg)
  | .middle h => lift .middle (MiddleCircuitHandler.handleMessage h io msg)
  | .exit h => lift .exit (h.handleMessage io prevHopWrite msg)

/-- Handle a cell from the next hop. -/
def handleBackwardRelay (handler : CircuitHandler) (msg : Message) :
    CircuitHandler × Except RelayError (Option Message) :=
  match handler with
  | .entry h =>
      (.entry (EntryCircuitHandler.handleBackwardRelay h msg).1,
        (EntryCircuitHandler.handleBackwardRelay h msg).2)
  | .middle h =>
      (.middle (MiddleCircuitHandler.handleBackwardRelay h msg).1,
        (MiddleCircuitHandler.handleBackwardRelay h msg).2)
  | .exit h => (.exit h, .ok (some msg))

end

/-! ## DESTROY -/

/-- Every handler closes its circuit at DESTROY, and answers nothing. -/
theorem handleMessage_destroy [Primitives] [AddrText] (handler : CircuitHandler) (io : RelayIo)
    (prevHop : Option ConnId) {msg : Message} (hcommand : msg.command = .destroy) :
    handler.handleMessage io prevHop msg = ⟨handler.close, [], .ok none⟩ := by
  cases handler with
  | entry h =>
      simp only [handleMessage, EntryCircuitHandler.handleMessage, hcommand]
      rfl
  | middle h =>
      simp only [handleMessage, MiddleCircuitHandler.handleMessage, hcommand]
      rfl
  | exit h =>
      simp only [handleMessage, ExitCircuitHandler.handleMessage, hcommand]
      rfl

@[simp]
theorem close_state (handler : CircuitHandler) : handler.close.state = .closed := by
  cases handler <;> rfl

@[simp]
theorem close_circuitId (handler : CircuitHandler) :
    handler.close.circuitId = handler.circuitId := by
  cases handler <;> rfl

@[simp]
theorem close_sharedState (handler : CircuitHandler) : handler.close.sharedState = none := by
  cases handler <;> rfl

/-! ## A circuit under construction -/

/-- What a handler holds of a circuit. -/
structure Holds (handler : CircuitHandler) (nodeType : NodeType) (circuitId : CircuitId)
    (key : SessionKey) (pair : CipherPair) (next : Option NextHop) : Prop where
  kind : handler.nodeType = nodeType
  id : handler.circuitId = circuitId
  key : handler.sessionKey = some key
  pair : handler.cipherPair = some pair
  next : handler.nextHop = next

variable {handler : CircuitHandler} {nodeType : NodeType} {circuitId : CircuitId}
  {key : SessionKey} {pair : CipherPair}

/-- Starting the reader of the next hop keeps everything else. -/
theorem Holds.takeReader {hop : NextHop}
    (h : handler.Holds nodeType circuitId key pair (some hop)) :
    handler.takeReader.1.Holds nodeType circuitId key pair (some hop.takeRead.1) := by
  cases handler with
  | entry h' =>
      have hnext : h'.nextHop = some hop := h.next
      simp only [CircuitHandler.takeReader, HopHandler.takeReader, hnext]
      exact ⟨h.kind, h.id, h.key, h.pair, rfl⟩
  | middle h' =>
      have hnext : h'.nextHop = some hop := h.next
      simp only [CircuitHandler.takeReader, HopHandler.takeReader, hnext]
      exact ⟨h.kind, h.id, h.key, h.pair, rfl⟩
  | exit exit => exact absurd h.next (by simp [CircuitHandler.nextHop])

variable [Primitives] [AddrText]

/-- A new handler that answers a CREATE holds the key of its handshake. -/
theorem holds_create (nodeType : NodeType) (circuitId : CircuitId) (keypair : KeyPair)
    (io : RelayIo) (prevHop : Option ConnId) (clientPublic : FixedBytes 32) :
    let out := (new nodeType circuitId keypair).handleMessage io prevHop
      (Message.create circuitId clientPublic.1)
    let reply := keypair.ntorServerHandshake io.ySecret clientPublic
    out.result = .ok (some (Message.created circuitId (reply.1.1 ++ reply.2.1.1))) ∧
      out.handler.Holds nodeType circuitId reply.2.2 (CipherPair.new reply.2.2) none := by
  intro out reply
  cases nodeType with
  | entry =>
      have hout : out = lift .entry (HopHandler.handleCreate (HopHandler.new circuitId keypair) io
        (Message.create circuitId clientPublic.1)) := rfl
      rw [hout, HopHandler.handleCreate_eq]
      exact ⟨rfl, rfl, rfl, rfl, rfl, rfl⟩
  | middle =>
      have hout : out = lift .middle (HopHandler.handleCreate (HopHandler.new circuitId keypair) io
        (Message.create circuitId clientPublic.1)) := rfl
      rw [hout, HopHandler.handleCreate_eq]
      exact ⟨rfl, rfl, rfl, rfl, rfl, rfl⟩
  | exit =>
      have hout : out = lift .exit ((ExitCircuitHandler.new circuitId keypair).handleCreate io
        (Message.create circuitId clientPublic.1)) := rfl
      rw [hout, ExitCircuitHandler.handleCreate_eq]
      exact ⟨rfl, rfl, rfl, rfl, rfl, rfl⟩

/-- A handler with a next hop passes EXTEND on, with one layer less. -/
theorem Holds.handleMessage_relay {hop : NextHop} (io : RelayIo) (prevHop : Option ConnId)
    {msg : Message} (h : handler.Holds nodeType circuitId key pair (some hop))
    (hcommand : msg.command = .extend) (hfits : msg.data.length ≤ maxPayloadSize)
    (hwrite : ∀ conn m, io.write conn m = .ok ()) :
    let out := handler.handleMessage io prevHop msg
    out.effects = [.send hop.write { msg with data := (pair.applyForward msg.data).2 }] ∧
      out.result = .ok none ∧
      out.handler.Holds nodeType circuitId key (pair.applyForward msg.data).1 (some hop) := by
  intro out
  have hrelay := fun texts (hop' : HopHandler) (hpair : hop'.context.cipherPair = some pair)
      (hnext : hop'.nextHop = some hop) =>
    HopHandler.handleRelay_eq texts hop' hpair hnext hfits (hwrite hop.write)
  cases handler with
  | entry hop' =>
      have hout : out = lift .entry (EntryCircuitHandler.handleMessage hop' io msg) := rfl
      have hcall := hrelay EntryCircuitHandler.texts hop' h.pair h.next
      have hnext : hop'.nextHop = some hop := h.next
      simp only [EntryCircuitHandler.handleMessage, hcommand, hnext, Option.isSome_some, if_true,
        EntryCircuitHandler.handleRelay, hcall] at hout
      rw [hout]
      exact ⟨by rw [hcommand]; rfl, rfl, h.kind, h.id, h.key, rfl, hnext⟩
  | middle hop' =>
      have hout : out = lift .middle (MiddleCircuitHandler.handleMessage hop' io msg) := rfl
      have hcall := hrelay MiddleCircuitHandler.texts hop' h.pair h.next
      have hnext : hop'.nextHop = some hop := h.next
      simp only [MiddleCircuitHandler.handleMessage, hcommand, hnext, Option.isSome_some, if_true,
        MiddleCircuitHandler.handleRelay, hcall] at hout
      rw [hout]
      exact ⟨by rw [hcommand]; rfl, rfl, h.kind, h.id, h.key, rfl, hnext⟩
  | exit exit => exact absurd h.next (by simp [CircuitHandler.nextHop])

/-- A handler without a next hop acts on EXTEND: it connects to the relay that is
named, hands it the client's key, and returns its answer under one layer. -/
theorem Holds.handleMessage_extend (io : RelayIo) (prevHop : Option ConnId) {msg : Message}
    {payload : ExtendPayload} {addr : SocketAddr} (conn : ConnId) (createdMsg : Message)
    (h : handler.Holds nodeType circuitId key pair none) (hkind : nodeType ≠ .exit)
    (hmsg : msg.command = .extend) (hpayload : (pair.applyForward msg.data).2 = payload.encode)
    (hzero : 0 ∉ asBytes payload.addrStr) (haddr : AddrText.parse payload.addrStr = some addr)
    (hconnect : io.connect addr payload.fingerprint = .ok conn)
    (hwrite : ∀ conn m, io.write conn m = .ok ())
    (hcreated : io.readCreated conn (Message.create circuitId payload.clientPublic.1) =
      .cell createdMsg) (hcommand : createdMsg.command = .created)
    (hlong : 32 ≤ createdMsg.data.length) :
    let out := handler.handleMessage io prevHop msg
    out.effects = [.dial addr payload.fingerprint conn,
        .send conn (Message.create circuitId payload.clientPublic.1)] ∧
      out.result = .ok (some (Message.extended circuitId
        (pair.applyBackward createdMsg.data).2)) ∧
      out.handler.Holds nodeType circuitId key
        ((pair.applyForward msg.data).1.applyBackward createdMsg.data).1
        (some (NextHop.new conn)) := by
  intro out
  have hopen := fun texts (hop : HopHandler) hpair hid =>
    HopHandler.openExtend_eq texts hop hpair hpayload hzero
      haddr hconnect (hwrite conn) hid hcommand
  cases handler with
  | entry hop =>
      have hout : out = lift .entry (EntryCircuitHandler.handleMessage hop io msg) := rfl
      have hid : hop.context.circuitId = circuitId := h.id
      have hnext : hop.nextHop = none := h.next
      have hcall := hopen EntryCircuitHandler.texts hop h.pair (hid ▸ hcreated)
      simp only [EntryCircuitHandler.handleMessage, hmsg, hnext, Option.isSome_none,
        Bool.false_eq_true, if_false, EntryCircuitHandler.handleExtend, hcall,
        HopHandler.finishExtend_eq (HopHandler.setCipher_cipherPair hop _)] at hout
      rw [hout, ← hid]
      exact ⟨rfl, rfl, h.kind, rfl, h.key, rfl, rfl⟩
  | middle hop =>
      have hout : out = lift .middle (MiddleCircuitHandler.handleMessage hop io msg) := rfl
      have hid : hop.context.circuitId = circuitId := h.id
      have hnext : hop.nextHop = none := h.next
      have hcall := hopen MiddleCircuitHandler.texts hop h.pair (hid ▸ hcreated)
      simp only [MiddleCircuitHandler.handleMessage, hmsg, hnext, Option.isSome_none,
        Bool.false_eq_true, if_false, MiddleCircuitHandler.handleExtend, hcall,
        if_neg (Nat.not_lt.mpr hlong),
        HopHandler.finishExtend_eq (HopHandler.setCipher_cipherPair hop _)] at hout
      rw [hout, ← hid]
      exact ⟨rfl, rfl, h.kind, rfl, h.key, rfl, rfl⟩
  | exit exit => exact absurd h.kind.symm hkind

/-- The next hop of a handler stays what it is when a backward cell passes. -/
theorem handleBackwardRelay_nextHop (handler : CircuitHandler) (msg : Message) :
    (handler.handleBackwardRelay msg).1.nextHop = handler.nextHop := by
  have hhop : ∀ texts (h : HopHandler),
      (HopHandler.handleBackwardRelay texts h msg).1.nextHop = h.nextHop := by
    intro texts h
    unfold HopHandler.handleBackwardRelay
    split <;> rfl
  cases handler with
  | entry h => exact hhop _ h
  | middle h => exact hhop _ h
  | exit h => rfl

/-- A handler stays of its kind when a backward cell passes. -/
theorem handleBackwardRelay_nodeType (handler : CircuitHandler) (msg : Message) :
    (handler.handleBackwardRelay msg).1.nodeType = handler.nodeType := by
  cases handler <;> rfl

/-- A handler that is not an exit adds one layer to what comes back. -/
theorem Holds.handleBackwardRelay {next : Option NextHop} (msg : Message)
    (h : handler.Holds nodeType circuitId key pair next) (hkind : nodeType ≠ .exit) :
    let out := handler.handleBackwardRelay msg
    out.2 = .ok (some { msg with data := (pair.applyBackward msg.data).2 }) ∧
      out.1.Holds nodeType circuitId key (pair.applyBackward msg.data).1 next := by
  intro out
  cases handler with
  | entry hop =>
      have hcall := HopHandler.handleBackwardRelay_eq EntryCircuitHandler.texts hop msg h.pair
      have hout : out = (.entry (HopHandler.handleBackwardRelay EntryCircuitHandler.texts hop
        msg).1, (HopHandler.handleBackwardRelay EntryCircuitHandler.texts hop msg).2) := rfl
      rw [hout, hcall]
      exact ⟨rfl, h.kind, h.id, h.key, rfl, h.next⟩
  | middle hop =>
      have hcall := HopHandler.handleBackwardRelay_eq MiddleCircuitHandler.texts hop msg h.pair
      have hout : out = (.middle (HopHandler.handleBackwardRelay MiddleCircuitHandler.texts hop
        msg).1, (HopHandler.handleBackwardRelay MiddleCircuitHandler.texts hop msg).2) := rfl
      rw [hout, hcall]
      exact ⟨rfl, h.kind, h.id, h.key, rfl, h.next⟩
  | exit exit => exact absurd h.kind.symm hkind

end CircuitHandler

end NoPanic
