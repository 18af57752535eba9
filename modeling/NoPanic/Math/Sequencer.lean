/-
# Sealing and writing in turn

A sequencer encodes values over a channel and writes the messages to a wire, one
at a time: the next value is encoded only after the message of the last one has
been written. When a write fails the wire stays down. Whoever the values come
from, the wire then holds the messages in the order in which they were encoded,
and a reader at the other end recovers the values in that order.
-/

import NoPanic.Math.Channel
import NoPanic.Math.TransitionSystem

namespace NoPanic.Math

universe u v w

/-- The state of a sequencer. -/
structure Sequencer (σ : Type u) (α : Type v) (β : Type w) where
  /-- The encoder. -/
  state : σ
  /-- The values encoded so far. -/
  sent : List α
  /-- Their messages. -/
  encoded : List β
  /-- A message that has been encoded and is not yet written. -/
  outstanding : Option β
  /-- The messages written so far. -/
  wire : List β
  /-- Whether the wire still takes messages. -/
  up : Bool

/-- What a sequencer does. -/
inductive SequencerEvent (α : Type v)
  | encode (a : α)
  | write
  | lose
  | cut

namespace Sequencer

variable {σ : Type u} {α : Type v} {β : Type w} (C : Channel σ α β)

/-- A sequencer that has done nothing. -/
def start (s₀ : σ) : Sequencer σ α β := ⟨s₀, [], [], none, [], true⟩

/-- The steps of a sequencer. -/
inductive Step : Sequencer σ α β → SequencerEvent α → Sequencer σ α β → Prop
  | /-- Encode a value when no message is outstanding. -/
    encode {s : Sequencer σ α β} (a : α) (hidle : s.outstanding = none) :
      Step s (.encode a) { s with
        state := (C.encode s.state a).1
        sent := s.sent ++ [a]
        encoded := s.encoded ++ [(C.encode s.state a).2]
        outstanding := some (C.encode s.state a).2 }
  | /-- Write the outstanding message. -/
    write {s : Sequencer σ α β} {b : β} (hheld : s.outstanding = some b) (hup : s.up = true) :
      Step s .write { s with outstanding := none, wire := s.wire ++ [b] }
  | /-- Writing the outstanding message fails. -/
    lose {s : Sequencer σ α β} :
      Step s .lose { s with outstanding := none, up := false }
  | /-- The wire fails by itself. -/
    cut {s : Sequencer σ α β} : Step s .cut { s with up := false }

/-- Sequencers that start from an encoder state. -/
def system (s₀ : σ) : TransitionSystem (Sequencer σ α β) (SequencerEvent α) where
  init s := s = start s₀
  step := Step C

/-- What holds of a sequencer at any time. -/
structure Sound (s₀ : σ) (s : Sequencer σ α β) : Prop where
  /-- The encoder has encoded the values, and nothing else. -/
  state : s.state = (C.encodeAll s₀ s.sent).1
  encoded : s.encoded = (C.encodeAll s₀ s.sent).2
  /-- What is written comes first in the order of encoding. -/
  ordered : s.wire <+: s.encoded
  /-- While the wire is up, only the outstanding message is missing from it. -/
  complete : s.up = true → s.wire ++ s.outstanding.toList = s.encoded

variable {C} {s₀ : σ}

/-- A sequencer at the start. -/
theorem sound_start : Sound C s₀ (start s₀) :=
  ⟨rfl, rfl, List.prefix_rfl, fun _ => rfl⟩

/-- A step keeps what holds of a sequencer. -/
theorem Sound.step {s t : Sequencer σ α β} {e : SequencerEvent α} (h : Sound C s₀ s)
    (hstep : Step C s e t) : Sound C s₀ t := by
  cases hstep with
  | encode a hidle =>
      refine ⟨?_, ?_, h.ordered.trans (List.prefix_append _ _), ?_⟩
      · simp [C.encodeAll_append, ← h.state]
      · simp [C.encodeAll_append, ← h.state, h.encoded]
      · intro hup
        have hcomplete := h.complete hup
        rw [hidle, Option.toList_none, List.append_nil] at hcomplete
        simp [hcomplete]
  | write hheld hup =>
      have hcomplete := h.complete hup
      rw [hheld, Option.toList_some] at hcomplete
      refine ⟨h.state, h.encoded, hcomplete ▸ List.prefix_rfl, ?_⟩
      intro _
      simp [hcomplete]
  | lose => exact ⟨h.state, h.encoded, h.ordered, fun h => by cases h⟩
  | cut => exact ⟨h.state, h.encoded, h.ordered, fun h => by cases h⟩

/-- What is reachable is sound. -/
theorem Reachable.sound {s : Sequencer σ α β} (hreach : (system C s₀).Reachable s) :
    Sound C s₀ s := by
  apply TransitionSystem.Reachable.invariant (Sound C s₀) ?_ ?_ hreach
  · intro s hs
    rw [show s = start s₀ from hs]
    exact sound_start
  · intro s e t hs hstep
    exact hs.step hstep

/-- The messages on the wire are those of the values that were sent first. -/
theorem Sound.wire_eq {s : Sequencer σ α β} (h : Sound C s₀ s) :
    s.wire = (C.encodeAll s₀ (s.sent.take s.wire.length)).2 := by
  have hordered := h.ordered
  rw [h.encoded] at hordered
  obtain ⟨later, hlater⟩ := hordered
  have hsplit := C.encodeAll_append s₀ (s.sent.take s.wire.length) (s.sent.drop s.wire.length)
  rw [List.take_append_drop] at hsplit
  rw [hsplit] at hlater
  apply List.append_inj_left hlater
  have hlen := congrArg List.length hlater
  simp only [List.length_append, C.length_encodeAll, List.length_drop] at hlen
  rw [C.length_encodeAll, List.length_take]
  have := h.ordered.length_le
  rw [h.encoded, C.length_encodeAll] at this
  omega

end Sequencer

end NoPanic.Math
