/-
# The connections that a relay accepts

A relay accepts every TCP connection and counts it. It then tries to take a permit: without one
the connection is dropped, otherwise a task keeps the permit while it makes the TLS handshake and
serves the connection, and gives it back when it ends. The tasks that a connection has started in
the background, the readers of its next hops and the streams of its circuits, have no permit and
go on after it.

Behind the accept loop the relay is the relay of `RelayNode`, where only the loops of connections
that are being served take steps.
-/

import NoPanic.Relay.Background
import NoPanic.Common.Reference
import Mathlib.Data.Finset.Card

namespace NoPanic

open NoPanic.Math

/-- The accept loop with its tasks, and the relay behind it. The connections are numbered as they
arrive. `rejected` and `ended` count what the loop only logs. -/
structure AcceptLoop where
  node : RelayNode
  permits : Nat
  arrivals : Nat
  handshaking : Finset Nat
  handling : Finset Nat
  rejected : Nat
  ended : Nat
  connectionsAccepted : UInt64

/-- What happens to the connections. -/
inductive AcceptEvent
  | accepts
  | shakes (n : Nat) (ok : Bool)
  | serves (e : RelayNodeEvent)
  | leaves (n : Nat)

namespace AcceptLoop

/-- `accept_connections` before the first connection. -/
def start (nodeType : NodeType) (keypair : KeyPair) (maxConcurrent : Nat) : AcceptLoop :=
  ⟨RelayNode.start nodeType keypair, maxConcurrent, 0, ∅, ∅, 0, 0, 0⟩

/-- How many tasks there are that have a permit. -/
def live (s : AcceptLoop) : Nat := s.handshaking.card + s.handling.card

section

variable [Primitives] [AddrText]

/-- One step of the loop or of a task. -/
inductive Step : AcceptLoop → AcceptEvent → AcceptLoop → Prop
  | admits {s : AcceptLoop} {p : Nat} (hpermits : s.permits = p + 1) :
      Step s .accepts
        { s with
          permits := p
          arrivals := s.arrivals + 1
          handshaking := insert s.arrivals s.handshaking
          connectionsAccepted := s.connectionsAccepted + 1 }
  | rejects {s : AcceptLoop} (hpermits : s.permits = 0) :
      Step s .accepts
        { s with
          arrivals := s.arrivals + 1
          rejected := s.rejected + 1
          connectionsAccepted := s.connectionsAccepted + 1 }
  | shakes {s : AcceptLoop} {n : Nat} (hn : n ∈ s.handshaking) :
      Step s (.shakes n true)
        { s with
          handshaking := s.handshaking.erase n
          handling := insert n s.handling }
  | /-- The TLS handshake fails. -/
    breaksOff {s : AcceptLoop} {n : Nat} (hn : n ∈ s.handshaking) :
      Step s (.shakes n false)
        { s with
          permits := s.permits + 1
          handshaking := s.handshaking.erase n
          ended := s.ended + 1 }
  | /-- The loop of a connection that is being served, or a task in the background. -/
    serves {s : AcceptLoop} {e : RelayNodeEvent} {node : RelayNode}
      (hserved : e.Background ∨ e.conn ∈ s.handling) (hstep : RelayNode.Step s.node e node) :
      Step s (.serves e) { s with node }
  | leaves {s : AcceptLoop} {n : Nat} (hn : n ∈ s.handling)
      (hended : (s.node.connections n).phase = .ended) :
      Step s (.leaves n)
        { s with
          permits := s.permits + 1
          handling := s.handling.erase n
          ended := s.ended + 1 }

/-- The runs of a relay with its accept loop. -/
def system (nodeType : NodeType) (keypair : KeyPair) (maxConcurrent : Nat) :
    TransitionSystem AcceptLoop AcceptEvent where
  init s := s = start nodeType keypair maxConcurrent
  step := Step

/-- The permits add up, and so do the connections. -/
structure Counted (nodeType : NodeType) (keypair : KeyPair) (maxConcurrent : Nat)
    (s : AcceptLoop) : Prop where
  permits : s.permits + s.live = maxConcurrent
  apart : Disjoint s.handshaking s.handling
  arrived : ∀ n, n ∈ s.handshaking ∨ n ∈ s.handling → n < s.arrivals
  arrivals : s.arrivals = s.live + s.rejected + s.ended
  accepted : s.connectionsAccepted = UInt64.ofNat s.arrivals
  node : (RelayNode.system nodeType keypair).Reachable s.node

variable {nodeType : NodeType} {keypair : KeyPair} {maxConcurrent : Nat} {s s' : AcceptLoop}
  {e : AcceptEvent}

omit [Primitives] [AddrText] in
/-- One more connection is counted. -/
theorem accepted_succ (h : s.connectionsAccepted = UInt64.ofNat s.arrivals) :
    s.connectionsAccepted + 1 = UInt64.ofNat (s.arrivals + 1) := by
  rw [h, UInt64.ofNat_add]
  rfl

/-- Every step keeps the counts. -/
theorem Counted.step (h : s.Counted nodeType keypair maxConcurrent) (hstep : Step s e s') :
    s'.Counted nodeType keypair maxConcurrent := by
  have hpermits := h.permits
  have harrivals := h.arrivals
  rw [live] at hpermits harrivals
  cases hstep with
  | @admits p hfree =>
      have hfresh : s.arrivals ∉ s.handshaking := fun hmem =>
        lt_irrefl _ (h.arrived _ (Or.inl hmem))
      have hfresh' : s.arrivals ∉ s.handling := fun hmem =>
        lt_irrefl _ (h.arrived _ (Or.inr hmem))
      have hcard := Finset.card_insert_of_notMem hfresh
      refine ⟨?_, Finset.disjoint_insert_left.mpr ⟨hfresh', h.apart⟩, ?_, ?_,
        accepted_succ h.accepted, h.node⟩
      · show p + ((insert s.arrivals s.handshaking).card + s.handling.card) = maxConcurrent
        omega
      · intro n hn
        show n < s.arrivals + 1
        rw [Finset.mem_insert, or_assoc] at hn
        rcases hn with rfl | hold
        · exact Nat.lt_succ_self _
        · exact Nat.lt_succ_of_lt (h.arrived n hold)
      · show s.arrivals + 1 = (insert s.arrivals s.handshaking).card + s.handling.card +
          s.rejected + s.ended
        omega
  | rejects hfull =>
      refine ⟨h.permits, h.apart, fun n hn => Nat.lt_succ_of_lt (h.arrived n hn), ?_,
        accepted_succ h.accepted, h.node⟩
      show s.arrivals + 1 = s.handshaking.card + s.handling.card + (s.rejected + 1) + s.ended
      omega
  | @shakes n hn =>
      have hnot : n ∉ s.handling := Finset.disjoint_left.mp h.apart hn
      have hcard := Finset.card_erase_add_one hn
      have hcard' := Finset.card_insert_of_notMem hnot
      refine ⟨?_, ?_, ?_, ?_, h.accepted, h.node⟩
      · show s.permits + ((s.handshaking.erase n).card + (insert n s.handling).card) = maxConcurrent
        omega
      · rw [Finset.disjoint_insert_right]
        exact ⟨Finset.notMem_erase n _, h.apart.mono_left (Finset.erase_subset ..)⟩
      · intro m hm
        rw [Finset.mem_insert] at hm
        rcases hm with herase | rfl | hold
        · exact h.arrived m (Or.inl (Finset.mem_of_mem_erase herase))
        · exact h.arrived m (Or.inl hn)
        · exact h.arrived m (Or.inr hold)
      · show s.arrivals = (s.handshaking.erase n).card + (insert n s.handling).card +
          s.rejected + s.ended
        omega
  | @breaksOff n hn =>
      have hcard := Finset.card_erase_add_one hn
      refine ⟨?_, h.apart.mono_left (Finset.erase_subset ..), ?_, ?_, h.accepted, h.node⟩
      · show s.permits + 1 + ((s.handshaking.erase n).card + s.handling.card) = maxConcurrent
        omega
      · exact fun m hm => h.arrived m (hm.imp_left Finset.mem_of_mem_erase)
      · show s.arrivals =
          (s.handshaking.erase n).card + s.handling.card + s.rejected + (s.ended + 1)
        omega
  | serves hserved hstep =>
      exact ⟨h.permits, h.apart, h.arrived, h.arrivals, h.accepted, h.node.next hstep⟩
  | @leaves n hn hended =>
      have hcard := Finset.card_erase_add_one hn
      refine ⟨?_, h.apart.mono_right (Finset.erase_subset ..), ?_, ?_, h.accepted, h.node⟩
      · show s.permits + 1 + (s.handshaking.card + (s.handling.erase n).card) = maxConcurrent
        omega
      · exact fun m hm => h.arrived m (hm.imp_right Finset.mem_of_mem_erase)
      · show s.arrivals =
          s.handshaking.card + (s.handling.erase n).card + s.rejected + (s.ended + 1)
        omega

/-- In every reachable state at most `max_concurrent` connections are being served, the relay
behind the loop has only done what a relay does, and `connections_accepted` counts those that are
being served, those that have ended and those that were rejected. The next connection is rejected
when as many as that are being served, and otherwise it is served as well. -/
theorem serves_at_most (hreach : (system nodeType keypair maxConcurrent).Reachable s) :
    s.live ≤ maxConcurrent ∧ (RelayNode.system nodeType keypair).Reachable s.node ∧
      s.connectionsAccepted = UInt64.ofNat (s.live + s.rejected + s.ended) ∧
      ∀ s', Step s .accepts s' →
        s.live = maxConcurrent ∧ s'.rejected = s.rejected + 1 ∧ s'.live = s.live ∨
          s.live < maxConcurrent ∧ s'.rejected = s.rejected ∧ s'.live = s.live + 1 := by
  have hcounted : s.Counted nodeType keypair maxConcurrent := by
    apply hreach.invariant (Counted nodeType keypair maxConcurrent)
    · rintro s rfl
      exact ⟨Nat.add_zero _, disjoint_bot_left, by simp [start], rfl, rfl,
        TransitionSystem.reachable_of_init rfl⟩
    · intro s e s' h hstep
      exact h.step hstep
  have hpermits := hcounted.permits
  refine ⟨by omega, hcounted.node, hcounted.accepted.trans (by rw [hcounted.arrivals]), ?_⟩
  intro s' hstep
  have hpermits' := (hcounted.step hstep).permits
  cases hstep with
  | @admits p hfree =>
      refine Or.inr ⟨by omega, rfl, ?_⟩
      change p + _ = maxConcurrent at hpermits'
      omega
  | rejects hfull => exact Or.inl ⟨by omega, rfl, rfl⟩

end

section

open Reference

/-- A relay for one connection at a time turns the second away while the first makes its
handshake. -/
theorem serves_at_most_two :
    ∃ s, (system .entry (KeyPair.fromSecretBytes (FixedBytes.ofNat 32 1)) 1).Reachable s ∧
      s.live = 1 ∧ s.rejected = 1 ∧ s.connectionsAccepted = 2 := by
  let keypair := KeyPair.fromSecretBytes (FixedBytes.ofNat 32 1)
  let first : AcceptLoop :=
    { start .entry keypair 1 with
      permits := 0
      arrivals := 1
      handshaking := insert 0 ∅
      connectionsAccepted := 1 }
  let second : AcceptLoop := { first with arrivals := 2, rejected := 1, connectionsAccepted := 2 }
  have hadmits : Step (start .entry keypair 1) .accepts first := .admits rfl
  have hrejects : Step first .accepts second := .rejects rfl
  have hreach : (system .entry keypair 1).Reachable second :=
    ((TransitionSystem.reachable_of_init rfl).next hadmits).next hrejects
  have hlive : second.live = 1 := rfl
  exact ⟨second, hreach, hlive, rfl, (serves_at_most hreach).2.2.1.trans (by rw [hlive]; rfl)⟩

end

end AcceptLoop

end NoPanic
