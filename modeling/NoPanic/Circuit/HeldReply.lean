/-
# A reply that has not been written

The connection loop of the exit handles a cell in two steps. The handler seals a reply with END
under the crypto lock and returns it, and the loop writes it later, while the rest of the circuit
goes on. CONNECTED is written by the handler itself.

As long as nobody else seals a cell in between, it makes no difference when the reply is written:
every other step of the circuit commutes with handing it to the last hop. So a circuit whose loop
holds a reply is as good as the circuit where the reply is written already.
-/

import NoPanic.Circuit.StreamData

namespace NoPanic

open NoPanic.Math

namespace Network

/-! ## Handing a reply on -/

/-- Messages handed to the last hop, for the client. -/
def handBack (net : Network) (msgs : List Message) : Network :=
  { net with
    hops := (feedBackward net.hops net.clientInbox msgs).1
    clientInbox := (feedBackward net.hops net.clientInbox msgs).2 }

/-- Writing messages that fit hands them on. -/
theorem writeBack_eq_handBack (net : Network) {msgs : List Message}
    (hfits : ∀ msg ∈ msgs, msg.data.length ≤ maxPayloadSize) :
    net.writeBack net.hops [] msgs = net.handBack msgs := by
  rw [writeBack_eq net net.hops [] hfits, List.append_nil]
  rfl

/-- What has been written fits. -/
theorem fits_of_writeBack {net : Network} {front back : List HopNode} {msgs : List Message}
    (hrunning : (net.writeBack front back msgs).failed = false) :
    ∀ msg ∈ msgs, msg.data.length ≤ maxPayloadSize := by
  unfold writeBack at hrunning
  split at hrunning
  · assumption
  · cases hrunning

theorem handBack_nil (net : Network) : net.handBack [] = net := by
  rw [handBack, feedBackward_nil]

/-- What is handed back behind some hops does not concern those in front of them. -/
theorem feedBackward_append (front : List HopNode) {back : List HopNode} (hback : back ≠ [])
    (clientInbox msgs : List Message) :
    feedBackward (front ++ back) clientInbox msgs =
      (front ++ (feedBackward back clientInbox msgs).1, clientInbox) := by
  obtain ⟨others, node, rfl⟩ := (List.eq_nil_or_concat' back).resolve_left hback
  rw [← List.append_assoc, feedBackward_concat, feedBackward_concat, List.append_assoc]

/-- A hop in front of others, when messages are handed back behind them. -/
theorem feedBackward_cons (node : HopNode) {back : List HopNode} (hback : back ≠ [])
    (clientInbox msgs : List Message) :
    feedBackward (node :: back) clientInbox msgs =
      (node :: (feedBackward back clientInbox msgs).1, clientInbox) :=
  feedBackward_append [node] hback clientInbox msgs

/-- What the client has waiting does not matter to the hops. -/
theorem feedBackward_fst (hops : List HopNode) (clientInbox msgs : List Message) :
    (feedBackward hops clientInbox msgs).1 = (feedBackward hops [] msgs).1 := by
  unfold feedBackward
  split <;> rfl

/-- The last hop takes them. -/
theorem feedBackward_singleton (node : HopNode) (clientInbox msgs : List Message) :
    feedBackward [node] clientInbox msgs =
      ([{ node with backInbox := node.backInbox ++ msgs }], clientInbox) :=
  feedBackward_concat [] node clientInbox msgs

/-- Hops stay hops when messages are handed on. -/
theorem feedForward_ne_nil {hops : List HopNode} (hne : hops ≠ []) (exitInbox msgs : List Message) :
    (feedForward hops exitInbox msgs).1 ≠ [] := by
  cases hops with
  | nil => exact absurd rfl hne
  | cons node hops => exact List.cons_ne_nil _ _

/-- Two writes one after the other are one. -/
theorem handBack_append (net : Network) (msgs later : List Message) :
    net.handBack (msgs ++ later) = (net.handBack msgs).handBack later := by
  obtain ⟨client, hops, exit, exitInbox, clientInbox, sent, recovered, emitted, received, failed⟩ :=
    net
  rcases List.eq_nil_or_concat' hops with rfl | ⟨others, node, rfl⟩
  · simp [handBack, feedBackward]
  · simp [handBack, feedBackward_concat]

/-- The two directions do not meet. -/
theorem feedForward_feedBackward (hops : List HopNode) (exitInbox clientInbox msgs back :
    List Message) :
    feedForward (feedBackward hops clientInbox back).1 exitInbox msgs =
      ((feedBackward (feedForward hops exitInbox msgs).1 clientInbox back).1,
        (feedForward hops exitInbox msgs).2) ∧
      (feedBackward (feedForward hops exitInbox msgs).1 clientInbox back).2 =
        (feedBackward hops clientInbox back).2 := by
  cases hops with
  | nil => exact ⟨rfl, rfl⟩
  | cons node hops =>
      by_cases hnil : hops = []
      · subst hnil
        simp only [feedForward, feedBackward_singleton]
        exact ⟨trivial, trivial⟩
      · simp only [feedForward, feedBackward_cons _ hnil]
        exact ⟨trivial, trivial⟩

section

variable [Primitives]

/-! ## Every other step commutes with it -/

/-- The client sends a cell. -/
theorem clientSends_handBack (net : Network) (cell : RelayCell) (msgs : List Message) :
    (net.handBack msgs).clientSends cell = (net.clientSends cell).handBack msgs := by
  have hclient : (net.handBack msgs).client = net.client := rfl
  unfold clientSends
  rw [hclient]
  generalize net.client.sendMessage cell.streamId cell.command cell.data (.ok ()) = out
  obtain ⟨client, result⟩ := out
  cases result with
  | error e => rfl
  | ok msg =>
      obtain ⟨hforward, hback⟩ :=
        feedForward_feedBackward net.hops net.exitInbox net.clientInbox [msg] msgs
      simp only [handBack, hforward, hback]

omit [Primitives] in
/-- The keepalive task sends PADDING. -/
theorem clientPads_handBack (net : Network) (payload : Bytes) (msgs : List Message) :
    (net.handBack msgs).clientPads payload = (net.clientPads payload).handBack msgs := by
  obtain ⟨hforward, hback⟩ := feedForward_feedBackward net.hops net.exitInbox net.clientInbox
    [Message.padding net.client.circuitId payload] msgs
  have hclient : (net.handBack msgs).client = net.client := rfl
  simp only [clientPads, hclient]
  simp only [handBack, hforward, hback]

omit [Primitives] in
/-- A reply of a hop goes to those in front of it. -/
theorem writeBack_handBack (net : Network) (front : List HopNode) {back : List HopNode}
    (hback : back ≠ []) (replies msgs : List Message) :
    (net.writeBack front back replies).handBack msgs =
      net.writeBack front (feedBackward back [] msgs).1 replies := by
  unfold writeBack
  split
  · simp only [handBack, feedBackward_append _ hback, feedBackward_fst back]
  · simp only [handBack, feedBackward_append _ hback, feedBackward_fst back]

omit [Primitives] in
/-- Messages handed back behind some hops change those hops alone. -/
theorem handBack_eq {net : Network} {front back : List HopNode} (hhops : net.hops = front ++ back)
    (hback : back ≠ []) (msgs : List Message) :
    net.handBack msgs = { net with hops := front ++ (feedBackward back [] msgs).1 } := by
  simp only [handBack, hhops, feedBackward_append _ hback, feedBackward_fst back]

/-- A hop reads from its previous hop. -/
theorem hopReads_handBack [AddrText] {net : Network} {front : List HopNode} {node : HopNode}
    {back : List HopNode} (hhops : net.hops = front ++ node :: back) (io : RelayIo) (msg : Message)
    (rest msgs : List Message) :
    ∃ node' back', (net.handBack msgs).hops = front ++ node' :: back' ∧ node'.inbox = node.inbox ∧
      (net.handBack msgs).hopReads front node' back' io msg rest =
        (net.hopReads front node back io msg rest).handBack msgs := by
  by_cases hlast : back = []
  · subst hlast
    rw [handBack_eq hhops (by simp)]
    refine ⟨{ node with backInbox := node.backInbox ++ msgs }, [], rfl, rfl, ?_⟩
    have hsame : HopNode.handleMessage { node with backInbox := node.backInbox ++ msgs } io msg =
        node.handleMessage io msg := rfl
    simp only [hopReads, hsame]
    split
    · rw [handBack_eq rfl (by simp)]
      rfl
    · rw [writeBack_handBack _ _ (by simp)]
      rfl
  · rw [handBack_eq hhops (by simp), feedBackward_cons _ hlast]
    refine ⟨node, _, rfl, rfl, ?_⟩
    obtain ⟨hforward, -⟩ := feedForward_feedBackward back net.exitInbox []
      ((node.handleMessage io msg).effects.filterMap RelayEffect.sent?) msgs
    simp only [hopReads]
    split
    · rw [handBack_eq rfl (by simp), feedBackward_cons _ hlast]
    · rw [writeBack_handBack _ _ (by simp), hforward, feedBackward_cons]
      · rfl
      · exact feedForward_ne_nil hlast _ _

/-- A hop reads from its next hop. -/
theorem hopReadsBack_handBack [AddrText] {net : Network} {front : List HopNode} {node : HopNode}
    {back : List HopNode} (hhops : net.hops = front ++ node :: back) {msg : Message}
    {rest : List Message} (hinbox : node.backInbox = msg :: rest) (msgs : List Message) :
    ∃ node' back' rest', (net.handBack msgs).hops = front ++ node' :: back' ∧
      node'.backInbox = msg :: rest' ∧
      (net.handBack msgs).hopReadsBack front node' back' msg rest' =
        (net.hopReadsBack front node back msg rest).handBack msgs := by
  by_cases hlast : back = []
  · subst hlast
    rw [handBack_eq hhops (by simp)]
    refine ⟨{ node with backInbox := node.backInbox ++ msgs }, [], rest ++ msgs, rfl, ?_, ?_⟩
    · rw [hinbox]
      rfl
    have hsame : HopNode.handleBackwardRelay { node with backInbox := node.backInbox ++ msgs } msg =
        node.handleBackwardRelay msg := rfl
    simp only [hopReadsBack, hsame]
    split
    · rw [handBack_eq rfl (by simp)]
      rfl
    · split
      · rw [handBack_eq rfl (by simp)]
        rfl
      · rw [writeBack_handBack _ _ (by simp)]
        rfl
  · rw [handBack_eq hhops (by simp), feedBackward_cons _ hlast]
    refine ⟨node, _, rest, rfl, hinbox, ?_⟩
    simp only [hopReadsBack]
    split
    · rw [handBack_eq rfl (by simp), feedBackward_cons _ hlast]
    · split
      · rw [handBack_eq rfl (by simp), feedBackward_cons _ hlast]
      · rw [writeBack_handBack _ _ (by simp), feedBackward_cons _ hlast]
        rfl

/-- The client reads. -/
theorem clientReads_handBack {net : Network} {msg : Message} {rest : List Message}
    (hinbox : net.clientInbox = msg :: rest) (msgs : List Message) :
    ∃ rest', (net.handBack msgs).clientInbox = msg :: rest' ∧
      (net.handBack msgs).clientReads msg rest' = (net.clientReads msg rest).handBack msgs := by
  rcases List.eq_nil_or_concat' net.hops with hnil | ⟨others, node, hhops⟩
  · refine ⟨rest ++ msgs, ?_, ?_⟩
    · simp only [handBack, hnil, hinbox]
      rfl
    · simp only [clientReads, handBack, hnil]
      split <;> rfl
  · rw [handBack_eq hhops (by simp)]
    refine ⟨rest, hinbox, ?_⟩
    simp only [clientReads]
    split
    · refine Eq.symm (handBack_eq ?_ (List.cons_ne_nil _ _) msgs)
      exact hhops
    · refine Eq.symm (handBack_eq ?_ (List.cons_ne_nil _ _) msgs)
      exact hhops

/-- Every step but those of the exit. -/
theorem Step.handBack [AddrText] {net net' : Network} {event : NetworkEvent}
    (hstep : Step net event net') (hexit : event ≠ .exit) (hemit : ∀ cell, event ≠ .emit cell)
    (msgs : List Message) : Step (net.handBack msgs) event (net'.handBack msgs) := by
  cases hstep with
  | send cell hrunning hcell =>
      rw [← clientSends_handBack]
      exact .send _ cell hrunning hcell
  | padding payload hrunning hshort =>
      rw [← clientPads_handBack]
      exact .padding _ payload hrunning hshort
  | relay front node back io msg rest hrunning hhops hinbox hdelivers =>
      obtain ⟨node', back', hhops', hsame, heq⟩ := hopReads_handBack hhops io msg rest msgs
      rw [← heq]
      exact .relay _ front node' back' io msg rest hrunning hhops' (hsame.trans hinbox) hdelivers
  | relayBack front node back msg rest hrunning hhops hinbox =>
      obtain ⟨node', back', rest', hhops', hinbox', heq⟩ := hopReadsBack_handBack hhops hinbox msgs
      rw [← heq]
      exact .relayBack _ front node' back' msg rest' hrunning hhops' hinbox'
  | exit => exact absurd rfl hexit
  | emit cell => exact absurd rfl (hemit cell)
  | receive msg rest hrunning hinbox =>
      obtain ⟨rest', hinbox', heq⟩ := clientReads_handBack hinbox msgs
      rw [← heq]
      exact .receive _ msg rest' hrunning hinbox'

/-! ## The exit in two steps -/

/-- The exit handles a message: what the handler writes itself is written, and the reply is
returned. -/
def exitHandles (net : Network) (io : RelayIo) (msg : Message) (rest : List Message) :
    Network × Option Message :=
  let out := net.exit.handleMessage io (some exitPrevHop) msg
  let net := { net with
    exit := out.handler
    exitInbox := rest
    recovered := net.recovered ++ out.effects.filterMap RelayEffect.recovered?
    emitted := net.emitted ++ out.effects.filterMap RelayEffect.sealed? }
  match out.result with
  | .error _ => ({ net with failed := true }, none)
  | .ok reply => (net.writeBack net.hops [] (out.effects.filterMap RelayEffect.sent?), reply)

/-- Where all goes well, the exit has read the message once the reply is handed on, and the reply
can be written. -/
theorem exitHandles_handBack {net : Network} {io : RelayIo} {msg : Message} {rest : List Message}
    (hrunning : (net.exitReads io msg rest).failed = false) :
    (net.exitHandles io msg rest).1.handBack (net.exitHandles io msg rest).2.toList =
        net.exitReads io msg rest ∧
      ∀ reply, (net.exitHandles io msg rest).2 = some reply →
        reply.data.length ≤ maxPayloadSize := by
  unfold exitReads at hrunning ⊢
  unfold exitHandles
  simp only at hrunning ⊢
  cases hresult : (net.exit.handleMessage io (some exitPrevHop) msg).result with
  | error e =>
      rw [hresult] at hrunning
      cases hrunning
  | ok reply =>
      rw [hresult] at hrunning
      simp only at hrunning ⊢
      have hfits := fits_of_writeBack hrunning
      rw [writeBack_eq_handBack _ hfits, writeBack_eq_handBack _ fun msg hmem =>
        hfits msg (List.mem_append_left _ hmem), handBack_append]
      refine ⟨rfl, fun answer hanswer => hfits answer (List.mem_append_right _ ?_)⟩
      rw [hanswer]
      exact List.mem_singleton_self _

end

end Network

namespace StreamNetwork

/-- Messages handed to the last hop, for the client. -/
def handBack (st : StreamNetwork) (msgs : List Message) : StreamNetwork :=
  { st with net := st.net.handBack msgs }

theorem handBack_nil (st : StreamNetwork) : st.handBack [] = st := by
  rw [handBack, Network.handBack_nil]

variable [Primitives]

/-- No step of the streams but those of the exit sees whether a reply has been written. -/
theorem Step.handBack [AddrText] {st st' : StreamNetwork} {event : StreamNetworkEvent}
    (hstep : Step st event st') (hexits : event ≠ .exits)
    (hemit : ∀ cell, event ≠ .moves (.emit cell)) (msgs : List Message) :
    Step (st.handBack msgs) event (st'.handBack msgs) := by
  cases hstep with
  | moves hmoves hstep =>
      refine .moves hmoves (hstep.handBack ?_ (fun cell heq => hemit cell (by rw [heq])) msgs)
      rintro rfl
      exact hmoves
  | opens destination hphase hfits =>
      have hopens : Step (st.handBack msgs) (.opens _ destination) _ :=
        .opens destination hphase hfits
      rw [clientSends, StreamNetwork.handBack, Network.clientSends_handBack] at hopens
      exact hopens
  | connects hphase hconnected => exact .connects hphase hconnected
  | reads slice hphase => exact .reads slice hphase
  | sends hphase =>
      have hsends : Step (st.handBack msgs) (.sends _) _ := .sends hphase
      rw [clientSends, StreamNetwork.handBack, Network.clientSends_handBack] at hsends
      exact hsends
  | stops hphase => exact .stops hphase
  | closes hphase =>
      have hcloses : Step (st.handBack msgs) (.closes _) _ := .closes hphase
      rw [clientSends, StreamNetwork.handBack, Network.clientSends_handBack] at hcloses
      exact hcloses
  | abandons hphase => exact .abandons hphase
  | exits => exact absurd rfl hexits
  | writes htask hqueued => exact .writes htask hqueued
  | finishes htask hdropped hempty => exact .finishes htask hdropped hempty
  | dies htask => exact .dies htask

end StreamNetwork

end NoPanic
