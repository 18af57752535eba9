/-
# What a heartbeat says of a relay's activity

A relay puts its activity into an event buffer. With every heartbeat it sends the newest
twenty events as texts, newest first, and the dashboard shows them.

Whatever the buffer's capacity, a snapshot is the end of all that was pushed, in the order
of the pushes and of the elapsed times, and the texts are the end of that backwards.
-/

import NoPanic.Common.Metrics
import NoPanic.Relay.RelayNode

namespace NoPanic

open NoPanic.Math

universe u v

/-- The direction of data through the network. -/
inductive Direction
  | forward
  | backward

namespace RelayMetrics

/-- What a relay notes in its activity log. -/
inductive EventKind
  | connectionAccepted (peer : String)
  | connectionClosed (peer : String)
  | circuitCreated (circuitId : CircuitId)
  | circuitExtended (circuitId : CircuitId) (nextHop : String)
  | circuitDestroyed (circuitId : CircuitId)
  | relayForward (circuitId : CircuitId) (command : MessageCommand) (bytes : Nat)
  | relayBackward (circuitId : CircuitId) (command : MessageCommand) (bytes : Nat)
  | streamOpened (circuitId : CircuitId) (streamId : StreamId) (destination : String)
  | streamClosed (circuitId : CircuitId) (streamId : StreamId)
  | streamData (circuitId : CircuitId) (streamId : StreamId) (bytes : Nat)
      (direction : Direction)
  | error (message : String)

/-- The circuit of an event as text. -/
def cidText (circuitId : CircuitId) : String := "cid=" ++ decimal circuitId.toNat

/-- The stream of an event as text. -/
def sidText (streamId : StreamId) : String := " sid=" ++ decimal streamId.toNat

/-- The size of an event as text. -/
def sizeText (bytes : Nat) : String := " [" ++ formatBytes (UInt64.ofNat bytes) ++ "]"

/-- The text of an event: an icon, a label and a detail. -/
def formatEventString : EventKind → String
  | .connectionAccepted peer => "\u2190 ACCEPT    from " ++ peer
  | .connectionClosed peer => "\u2014 CLOSED    conn from " ++ peer
  | .circuitCreated circuitId => "\u2699 CREATE    " ++ cidText circuitId
  | .circuitExtended circuitId nextHop =>
      "\u2192 EXTEND    " ++ cidText circuitId ++ " \u2192 " ++ nextHop
  | .circuitDestroyed circuitId => "\u2717 DESTROY   " ++ cidText circuitId
  | .relayForward circuitId command bytes =>
      "\u2192 RELAY\u2192    " ++ cidText circuitId ++ " " ++ command.displayName ++
        sizeText bytes
  | .relayBackward circuitId command bytes =>
      "\u2190 RELAY\u2190    " ++ cidText circuitId ++ " " ++ command.displayName ++
        sizeText bytes
  | .streamOpened circuitId streamId destination =>
      "\u2192 STREAM    " ++ cidText circuitId ++ sidText streamId ++ " \u2192 " ++ destination
  | .streamClosed circuitId streamId =>
      "\u2014 END       " ++ cidText circuitId ++ sidText streamId
  | .streamData circuitId streamId bytes _ =>
      "\u2194 DATA      " ++ cidText circuitId ++ sidText streamId ++ sizeText bytes
  | .error message => "\u2717 ERROR     " ++ message

/-- The line of an event in a heartbeat. -/
def eventLine (e : TuiEvent EventKind) : String :=
  "[" ++ formatTimestamp e.elapsed ++ "] " ++ formatEventString e.kind

/-- The recent events of the metrics' buffer, as a heartbeat carries them. -/
def eventSnapshot (events : EventBuffer EventKind) : List String :=
  (events.snapshot eventLine).reverse.take 20

end RelayMetrics

namespace EventBuffer

variable {c : Nat}

/-- The texts of a heartbeat, said of the pushes themselves. -/
theorem eventSnapshot_pushAll_new (hc : 1 ≤ c) (startTime : Nat)
    (pushes : List (Nat × RelayMetrics.EventKind)) :
    RelayMetrics.eventSnapshot ((new c startTime).pushAll pushes) =
      (pushes.rtake (min pushes.length (min 20 c))).reverse.map fun p =>
        RelayMetrics.eventLine (event startTime p) := by
  rw [RelayMetrics.eventSnapshot, snapshot_pushAll_new hc, ← List.map_reverse, ← List.map_take,
    take_reverse, rtake_min_length, rtake_min_length, rtake_rtake]

/-- After any pushes to a new buffer, a snapshot is exactly the last of them that fit, in
their order and with elapsed times that never decrease, and a heartbeat lists the newest
twenty of these, newest first. -/
theorem snapshot_newest (hc : 1 ≤ c) (startTime : Nat) :
    (∀ (E : Type u) (T : Type v) (pushes : List (Nat × E)) (mapFn : TuiEvent E → T),
      ClockMonotone pushes →
        ((new c startTime).pushAll pushes).snapshot mapFn =
            (pushes.rtake (min pushes.length c)).map (fun p => mapFn (event startTime p)) ∧
          (((new c startTime).pushAll pushes).snapshot TuiEvent.elapsed).Pairwise (· ≤ ·)) ∧
      ∀ pushes : List (Nat × RelayMetrics.EventKind),
        RelayMetrics.eventSnapshot ((new c startTime).pushAll pushes) =
          (pushes.rtake (min pushes.length (min 20 c))).reverse.map fun p =>
            RelayMetrics.eventLine (event startTime p) := by
  constructor
  · intro E T pushes mapFn hclock
    exact ⟨snapshot_pushAll_new hc startTime pushes mapFn,
      pairwise_elapsed hc startTime hclock⟩
  · exact eventSnapshot_pushAll_new hc startTime

/-- Three pushes to a buffer of two drop the first. -/
theorem snapshot_newest_overflow :
    ((new 2 5).pushAll [(6, 1), (8, 2), (8, 3)]).snapshot TuiEvent.kind = [2, 3] ∧
      RelayMetrics.eventSnapshot ((new 2 5).pushAll
        [(6, .error "a"), (8, .error "b"), (8, .error "c")]) =
          ["[+0:00:00] \u2717 ERROR     c", "[+0:00:00] \u2717 ERROR     b"] := by
  have h := snapshot_newest (c := 2) (by decide) 5
  refine ⟨(h.1 Nat Nat [(6, 1), (8, 2), (8, 3)] TuiEvent.kind ?_).1, ?_⟩
  · unfold ClockMonotone
    decide
  · rw [h.2 [(6, .error "a"), (8, .error "b"), (8, .error "c")]]
    decide

end EventBuffer

end NoPanic
