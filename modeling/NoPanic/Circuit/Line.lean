/-
# The line of hops

The relays between the client and the exit, and what a line of them does to cells
that pass it one after the other. A hop runs its own handler. While it has its
keys and its next hop, what the handler does to the cells of streams is one step
of `hopTransducer`, so that the facts about layers speak of the relays' code.
-/

import NoPanic.Circuit.ExitEnd
import NoPanic.Relay.Middle

namespace NoPanic

open NoPanic.Math

/-- The kinds of relay in front of the exit. -/
inductive HopRole
  | entry
  | middle
  deriving DecidableEq, Repr

/-- A relay in front of the exit, with what has arrived from either side. -/
structure HopNode where
  role : HopRole
  handler : HopHandler
  inbox : List Message
  backInbox : List Message

namespace HopNode

variable [Primitives]

/-- A hop handles a message from its previous hop. -/
def handleMessage [AddrText] (node : HopNode) (io : RelayIo) (msg : Message) :
    Handled HopHandler (Option Message) :=
  match node.role with
  | .entry => EntryCircuitHandler.handleMessage node.handler io msg
  | .middle => MiddleCircuitHandler.handleMessage node.handler io msg

/-- A hop handles a message from its next hop. -/
def handleBackwardRelay [AddrText] (node : HopNode) (msg : Message) :
    HopHandler × Except RelayError (Option Message) :=
  match node.role with
  | .entry => EntryCircuitHandler.handleBackwardRelay node.handler msg
  | .middle => MiddleCircuitHandler.handleBackwardRelay node.handler msg

end HopNode

/-! ## What a hop holds -/

/-- The keys shown for a party that holds none. -/
def blankPair : CipherPair := CipherPair.new ⟨FixedBytes.zero 16, FixedBytes.zero 16⟩

/-- A handler that has keys and a next hop. -/
structure HopHandler.Established (h : HopHandler) : Prop where
  cipher : ∃ pair, h.context.cipherPair = some pair
  nextHop : ∃ hop, h.nextHop = some hop

namespace HopNode

/-- The cipher pair of a hop. -/
def pair (node : HopNode) : CipherPair := node.handler.context.cipherPair.getD blankPair

/-- Hops whose ciphers are known have those ciphers. -/
theorem pairs_of_ciphers {hops : List HopNode} {pairs : List CipherPair}
    (hpairs : hops.map (fun node => node.handler.context.cipherPair) = pairs.map some) :
    pairs = hops.map HopNode.pair ∧
      ∀ node ∈ hops, ∃ pair, node.handler.context.cipherPair = some pair := by
  induction hops generalizing pairs with
  | nil => simpa using hpairs
  | cons node hops ih =>
      cases pairs with
      | nil => simp at hpairs
      | cons pair pairs =>
          simp only [List.map_cons, List.cons.injEq] at hpairs
          obtain ⟨rfl, hall⟩ := ih hpairs.2
          refine ⟨by simp [HopNode.pair, hpairs.1], ?_⟩
          simpa using ⟨⟨pair, hpairs.1⟩, hall⟩

end HopNode

/-! ## What travels -/

/-- What travels to the exit: PADDING and the cells of streams. -/
def ForwardTraffic (msg : Message) : Prop :=
  (msg.command = .padding ∨ msg.command = .begin ∨ msg.command = .data ∨ msg.command = .end) ∧
    msg.data.length ≤ maxPayloadSize

/-- What travels to the client. -/
def BackwardTraffic (msg : Message) : Prop :=
  msg.command ≠ .padding ∧ msg.command ≠ .destroy ∧ msg.data.length ≤ maxPayloadSize

variable [Primitives]

/-- A hop lets forward traffic through as forward traffic. -/
theorem forwardTraffic_step (cipher : Aes128Ctr) {msg : Message} (hmsg : ForwardTraffic msg) :
    ∀ out ∈ (hopTransducer.step cipher msg).2, ForwardTraffic out := by
  intro out hout
  simp only [hopTransducer] at hout
  split at hout
  · simp at hout
  · rw [List.mem_singleton] at hout
    subst hout
    exact ⟨hmsg.1, by simpa using hmsg.2⟩

/-- A hop lets backward traffic through as backward traffic. -/
theorem backwardTraffic_step (cipher : Aes128Ctr) {msg : Message} (hmsg : BackwardTraffic msg) :
    ∀ out ∈ (hopTransducer.step cipher msg).2, BackwardTraffic out := by
  intro out hout
  simp only [hopTransducer, if_neg hmsg.1, List.mem_singleton] at hout
  subst hout
  exact ⟨hmsg.1, hmsg.2.1, by simpa using hmsg.2.2⟩

namespace HopNode

/-- An established hop transduces forward traffic and answers nothing. -/
theorem handleMessage_eq [AddrText] {node : HopNode} {io : RelayIo} {msg : Message}
    (hnode : node.handler.Established) (hmsg : ForwardTraffic msg) (hdelivers : io.Delivers) :
    ∃ h effects, node.handleMessage io msg = ⟨h, effects, .ok none⟩ ∧ h.Established ∧
      (h.context.cipherPair.getD blankPair).forward =
        (hopTransducer.step node.pair.forward msg).1 ∧
      (h.context.cipherPair.getD blankPair).backward = node.pair.backward ∧
      effects.filterMap RelayEffect.sent? = (hopTransducer.step node.pair.forward msg).2 := by
  obtain ⟨⟨pair, hpair⟩, hop, hhop⟩ := hnode
  have hown : node.pair = pair := by simp [HopNode.pair, hpair]
  obtain ⟨hcommand, hfits⟩ := hmsg
  by_cases hpadding : msg.command = .padding
  · refine ⟨node.handler, [], ?_, ⟨⟨pair, hpair⟩, hop, hhop⟩, ?_⟩
    · cases hrole : node.role <;>
        simp [handleMessage, hrole, EntryCircuitHandler.handleMessage,
          MiddleCircuitHandler.handleMessage, hpadding]
    · simp [hopTransducer, hpadding, hpair, hown]
  · refine ⟨node.handler.setCipher (pair.applyForward msg.data).1,
      [.send hop.write { msg with data := (pair.applyForward msg.data).2 }], ?_,
      ⟨⟨_, HopHandler.setCipher_cipherPair _ _⟩, hop, hhop⟩, ?_⟩
    · have hrelay := fun texts => HopHandler.handleRelay_eq texts node.handler hpair hhop hfits
        fun m => hdelivers hop.write m
      rcases hcommand with hpad | hbegin | hdata | hend
      · exact absurd hpad hpadding
      all_goals
        cases hrole : node.role <;>
          simp [handleMessage, EntryCircuitHandler.handleMessage,
            MiddleCircuitHandler.handleMessage, EntryCircuitHandler.handleRelay,
            MiddleCircuitHandler.handleRelay, *]
    · simp [hopTransducer, hpadding, hown, RelayEffect.sent?]

/-- An established hop transduces backward traffic. -/
theorem handleBackwardRelay_eq [AddrText] {node : HopNode} {msg : Message}
    (hnode : node.handler.Established) (hmsg : BackwardTraffic msg) :
    ∃ h out, node.handleBackwardRelay msg = (h, .ok (some out)) ∧ h.Established ∧
      (h.context.cipherPair.getD blankPair).backward =
        (hopTransducer.step node.pair.backward msg).1 ∧
      (h.context.cipherPair.getD blankPair).forward = node.pair.forward ∧
      [out] = (hopTransducer.step node.pair.backward msg).2 := by
  obtain ⟨⟨pair, hpair⟩, hop, hhop⟩ := hnode
  have hown : node.pair = pair := by simp [HopNode.pair, hpair]
  refine ⟨node.handler.setCipher (pair.applyBackward msg.data).1,
    { msg with data := (pair.applyBackward msg.data).2 }, ?_,
    ⟨⟨_, HopHandler.setCipher_cipherPair _ _⟩, hop, hhop⟩, ?_⟩
  · have hrelay := fun texts => HopHandler.handleBackwardRelay_eq texts node.handler msg hpair
    cases hrole : node.role <;>
      simp [handleBackwardRelay, hrole, EntryCircuitHandler.handleBackwardRelay,
        MiddleCircuitHandler.handleBackwardRelay, hrelay]
  · simp [hopTransducer, hmsg.1, hown]

end HopNode

/-! ## Cells that pass a line one after the other -/

/-- A hop, by what it writes to its next hop for a message from its previous hop. -/
def relayTransducer [AddrText] (io : RelayIo) : Transducer HopNode Message where
  step node msg :=
    let out := node.handleMessage io msg
    ({ node with handler := out.handler }, out.effects.filterMap RelayEffect.sent?)

/-- A hop, by what it returns to its previous hop for a message from its next hop. -/
def relayBackTransducer [AddrText] : Transducer HopNode Message where
  step node msg :=
    match node.handleBackwardRelay msg with
    | (handler, .ok reply) => ({ node with handler }, reply.toList)
    | (handler, .error _) => ({ node with handler }, [])

/-- Established hops only peel. -/
theorem relayTransducer_seenAs [AddrText] {io : RelayIo} (hdelivers : io.Delivers) :
    (relayTransducer io).SeenAs hopTransducer (fun node => node.pair.forward)
      (fun node => node.handler.Established) ForwardTraffic := by
  intro node msg hnode hmsg
  obtain ⟨h, effects, hout, hh, hcipher, -, hsent⟩ := HopNode.handleMessage_eq hnode hmsg hdelivers
  simp only [relayTransducer, hout, hsent]
  exact ⟨Prod.ext hcipher.symm rfl, hh, forwardTraffic_step _ hmsg⟩

/-- Established hops only wrap. -/
theorem relayBackTransducer_seenAs [AddrText] :
    relayBackTransducer.SeenAs hopTransducer (fun node => node.pair.backward)
      (fun node => node.handler.Established) BackwardTraffic := by
  intro node msg hnode hmsg
  obtain ⟨h, out, hout, hh, hcipher, -, hsent⟩ := HopNode.handleBackwardRelay_eq hnode hmsg
  simp only [relayBackTransducer, hout, Option.toList_some, hsent]
  exact ⟨Prod.ext hcipher.symm rfl, hh, backwardTraffic_step _ hmsg⟩

end NoPanic
