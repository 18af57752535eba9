/-
# The entry relay

The first hop: it answers the client's CREATE, extends the circuit once, and
from then on passes cells on with one layer less.
-/

import NoPanic.Relay.Hop

namespace NoPanic

open NoPanic.Math

/-- The handler of an entry relay. -/
abbrev EntryCircuitHandler : Type := HopHandler

namespace EntryCircuitHandler

/-- The texts of an entry relay. -/
def texts : HopTexts where
  noCipherExtend := "Circuit not yet established"
  noCipherRelay := "Circuit not yet established"
  noCipherBackward := "No session key established"
  extendShortKey := "EXTEND payload too short for ephemeral key"
  extendInvalidKey := "Invalid ephemeral key in EXTEND payload"
  shown addrStr _ := addrStr
  nextHopClosed := "Next hop closed connection waiting for CREATED from "
  expectedCreated := "Expected CREATED from next hop, got "

/-- The handler of a new circuit. -/
def new (circuitId : CircuitId) (keypair : KeyPair) : EntryCircuitHandler :=
  HopHandler.new circuitId keypair

/-- Close the circuit. -/
def close (h : EntryCircuitHandler) : EntryCircuitHandler := HopHandler.close h

variable [Primitives] [AddrText]

/-- Answer a CREATE. -/
def handleCreate (h : EntryCircuitHandler) (io : RelayIo) (msg : Message) :
    Handled HopHandler (Option Message) :=
  HopHandler.handleCreate h io msg

/-- Act on an EXTEND: any CREATED of the next hop is passed back. -/
def handleExtend (h : EntryCircuitHandler) (io : RelayIo) (msg : Message) :
    Handled HopHandler (Option Message) :=
  match HopHandler.openExtend texts h io msg with
  | ⟨h, effects, .error e⟩ => ⟨h, effects, .error e⟩
  | ⟨h, effects, .ok (conn, createdMsg)⟩ =>
      let (h, result) := HopHandler.finishExtend h conn createdMsg
      ⟨h, effects, result⟩

/-- Peel one layer and pass the cell on. -/
def handleRelay (h : EntryCircuitHandler) (io : RelayIo) (msg : Message) :
    Handled HopHandler (Option Message) :=
  HopHandler.handleRelay texts h io msg

/-- Add one layer to a backward cell. -/
def handleBackwardRelay (h : EntryCircuitHandler) (msg : Message) :
    HopHandler × Except RelayError (Option Message) :=
  HopHandler.handleBackwardRelay texts h msg

/-- Handle a cell from the previous hop. -/
def handleMessage (h : EntryCircuitHandler) (io : RelayIo) (msg : Message) :
    Handled HopHandler (Option Message) :=
  match msg.command with
  | .create => handleCreate h io msg
  | .extend => if h.nextHop.isSome then handleRelay h io msg else handleExtend h io msg
  | .data | .begin | .end | .connected => handleRelay h io msg
  | .destroy => ⟨close h, [], .ok none⟩
  | .padding => ⟨h, [], .ok none⟩
  | .created | .extended =>
      ⟨h, [], .error (.text ("Unexpected command: " ++ msg.command.debugName))⟩

end EntryCircuitHandler

end NoPanic
