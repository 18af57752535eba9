/-
# The middle relay

A hop between two relays. It does what an entry relay does, with texts of its
own, and two things besides: it refuses an answer of the next hop that is too
short for a key, and it lets EXTENDED through that reaches it from the previous
hop.
-/

import NoPanic.Relay.Entry

namespace NoPanic

open NoPanic.Math

/-- The handler of a middle relay. -/
abbrev MiddleCircuitHandler : Type := HopHandler

namespace MiddleCircuitHandler

variable [AddrText]

/-- The texts of a middle relay. -/
def texts : HopTexts where
  noCipherExtend := "No cipher pair established for EXTEND"
  noCipherRelay := "No cipher pair established"
  noCipherBackward := "No cipher pair established"
  extendShortKey := "EXTEND payload too short for public key"
  extendInvalidKey := "Invalid public key in EXTEND payload"
  shown _ addr := AddrText.display addr
  nextHopClosed := "Connection closed waiting for CREATED from "
  expectedCreated := "Expected CREATED, got "

/-- The handler of a new circuit. -/
def new (circuitId : CircuitId) (keypair : KeyPair) : MiddleCircuitHandler :=
  HopHandler.new circuitId keypair

/-- Close the circuit. -/
def close (h : MiddleCircuitHandler) : MiddleCircuitHandler := HopHandler.close h

/-- Let an EXTENDED through that is long enough for a key. -/
def handleExtended (h : MiddleCircuitHandler) (msg : Message) :
    Handled HopHandler (Option Message) :=
  if msg.data.length < 32 then ⟨h, [], .error (.text "EXTENDED message too short")⟩
  else ⟨h, [], .ok (some msg)⟩

variable [Primitives]

/-- Answer a CREATE. -/
def handleCreate (h : MiddleCircuitHandler) (io : RelayIo) (msg : Message) :
    Handled HopHandler (Option Message) :=
  HopHandler.handleCreate h io msg

/-- Act on an EXTEND: a CREATED too short for a key is refused. -/
def handleExtend (h : MiddleCircuitHandler) (io : RelayIo) (msg : Message) :
    Handled HopHandler (Option Message) :=
  match HopHandler.openExtend texts h io msg with
  | ⟨h, effects, .error e⟩ => ⟨h, effects, .error e⟩
  | ⟨h, effects, .ok (conn, createdMsg)⟩ =>
      if createdMsg.data.length < 32 then
        ⟨h, effects, .error (.text "CREATED response too short")⟩
      else
        let (h, result) := HopHandler.finishExtend h conn createdMsg
        ⟨h, effects, result⟩

/-- Peel one layer and pass the cell on. -/
def handleRelay (h : MiddleCircuitHandler) (io : RelayIo) (msg : Message) :
    Handled HopHandler (Option Message) :=
  HopHandler.handleRelay texts h io msg

/-- Add one layer to a backward cell. -/
def handleBackwardRelay (h : MiddleCircuitHandler) (msg : Message) :
    HopHandler × Except RelayError (Option Message) :=
  HopHandler.handleBackwardRelay texts h msg

/-- Handle a cell from the previous hop. -/
def handleMessage (h : MiddleCircuitHandler) (io : RelayIo) (msg : Message) :
    Handled HopHandler (Option Message) :=
  match msg.command with
  | .create => handleCreate h io msg
  | .extend => if h.nextHop.isSome then handleRelay h io msg else handleExtend h io msg
  | .extended => handleExtended h msg
  | .data | .begin | .end | .connected => handleRelay h io msg
  | .destroy => ⟨close h, [], .ok none⟩
  | .padding => ⟨h, [], .ok none⟩
  | .created => ⟨h, [], .error (.text ("Unexpected command: " ++ msg.command.debugName))⟩

end MiddleCircuitHandler

end NoPanic
