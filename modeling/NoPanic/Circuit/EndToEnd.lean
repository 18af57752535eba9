/-
# Everything arrives

On an established circuit the exit recovers every cell the client sends, and the
client accepts every cell the exit emits, in order and without a failed check,
whatever the schedule.

Either direction of the network is a `Link`: its ends are those of the client and
of the exit, its line is the line of the hops. A step of the network is a step of
one link, or of both when the exit answers, and the rules of `Link.Sound` carry
the invariant through it.
-/

import NoPanic.Circuit.Network
import NoPanic.Math.Delivery

namespace NoPanic

open NoPanic.Math

/-! ## The two directions -/

namespace HopNode

/-- A hop as a stage of the line to the exit. -/
def forwardStage (node : HopNode) : Stage Aes128Ctr Message := ⟨node.pair.forward, node.inbox⟩

/-- A hop as a stage of the line to the client. -/
def backwardStage (node : HopNode) : Stage Aes128Ctr Message :=
  ⟨node.pair.backward, node.backInbox⟩

end HopNode

namespace Network

/-! ## Handing messages on -/

/-- Forward links see what is handed on as the pipeline does. -/
theorem feedForward_forward (hops : List HopNode) (exitInbox msgs : List Message) :
    (((feedForward hops exitInbox msgs).1.map HopNode.forwardStage),
        (feedForward hops exitInbox msgs).2) =
      Pipeline.feed (hops.map HopNode.forwardStage) exitInbox msgs := by
  cases hops <;> rfl

/-- What is handed on forwards does not show backwards. -/
theorem feedForward_backward (hops : List HopNode) (exitInbox msgs : List Message) :
    (feedForward hops exitInbox msgs).1.map HopNode.backwardStage =
      hops.map HopNode.backwardStage := by
  cases hops <;> rfl

/-- Handing messages on leaves the handlers alone. -/
theorem feedForward_handler (hops : List HopNode) (exitInbox msgs : List Message) :
    (feedForward hops exitInbox msgs).1.map HopNode.handler = hops.map HopNode.handler := by
  cases hops <;> rfl

/-- What is handed back goes to the last of the hops. -/
theorem feedBackward_concat (front : List HopNode) (node : HopNode)
    (clientInbox msgs : List Message) :
    feedBackward (front ++ [node]) clientInbox msgs =
      (front ++ [{ node with backInbox := node.backInbox ++ msgs }], clientInbox) := by
  simp [feedBackward]

/-- Nothing handed back changes nothing. -/
theorem feedBackward_nil (front : List HopNode) (clientInbox : List Message) :
    feedBackward front clientInbox [] = (front, clientInbox) := by
  rcases List.eq_nil_or_concat' front with rfl | ⟨others, node, rfl⟩
  · simp [feedBackward]
  · simp [feedBackward_concat]

/-- Backward links see what is handed back as the pipeline does. -/
theorem feedBackward_backward (front : List HopNode) (clientInbox msgs : List Message) :
    (((feedBackward front clientInbox msgs).1.map HopNode.backwardStage).reverse,
        (feedBackward front clientInbox msgs).2) =
      Pipeline.feed (front.map HopNode.backwardStage).reverse clientInbox msgs := by
  rcases List.eq_nil_or_concat' front with rfl | ⟨others, node, rfl⟩
  · rfl
  · simp [feedBackward_concat, Pipeline.feed, HopNode.backwardStage, HopNode.pair]

/-- Whatever of a hop does not depend on what waits for it on the way back stays as it is when
messages are handed back. -/
theorem map_feedBackward {α : Type*} {view : HopNode → α}
    (hview : ∀ node backInbox, view { node with backInbox } = view node) (front : List HopNode)
    (clientInbox msgs : List Message) :
    (feedBackward front clientInbox msgs).1.map view = front.map view := by
  rcases List.eq_nil_or_concat' front with rfl | ⟨others, node, rfl⟩
  · rfl
  · simp [feedBackward_concat, hview]

/-- What is handed back does not show forwards. -/
theorem feedBackward_forward (front : List HopNode) (clientInbox msgs : List Message) :
    (feedBackward front clientInbox msgs).1.map HopNode.forwardStage =
      front.map HopNode.forwardStage :=
  map_feedBackward (fun _ _ => rfl) front clientInbox msgs

/-- Handing messages back leaves the handlers alone. -/
theorem feedBackward_handler (front : List HopNode) (clientInbox msgs : List Message) :
    (feedBackward front clientInbox msgs).1.map HopNode.handler = front.map HopNode.handler :=
  map_feedBackward (fun _ _ => rfl) front clientInbox msgs

/-- Messages that fit are written towards the client. -/
theorem writeBack_eq (net : Network) (front back : List HopNode) {msgs : List Message}
    (hfits : ∀ msg ∈ msgs, msg.data.length ≤ maxPayloadSize) :
    net.writeBack front back msgs = { net with
      hops := (feedBackward front net.clientInbox msgs).1 ++ back
      clientInbox := (feedBackward front net.clientInbox msgs).2 } :=
  if_pos hfits

end Network

/-! ## The line of hops -/

/-- On the way to the exit, the source has the layers of the hops around those of
the sink. -/
def ForwardInStep (line : List Aes128Ctr) (source sink : OnionEnd) : Prop :=
  line ≠ [] ∧ source = ⟨line ++ sink.ciphers, sink.digest⟩

/-- On the way to the client, the sink has the layers of the hops around those of
the source. -/
def BackwardInStep (line : List Aes128Ctr) (source sink : OnionEnd) : Prop :=
  sink = ⟨line.reverse ++ source.ciphers, source.digest⟩


section

variable [Primitives]

/-- Hops on the way to the exit carry the client's cells. -/
theorem carries_forward (circuitId : CircuitId) :
    Carries (OnionEnd.channel circuitId) hopTransducer ForwardInStep
      fun cell => cell.command ≠ .padding := by
  rintro line source sink cell hcell ⟨hline, rfl⟩
  have hpeel := chain_peel circuitId line sink.ciphers sink.digest hcell
  refine ⟨congrArg Prod.snd hpeel, ?_, ?_⟩
  · rw [OnionEnd.channel_encode, hpeel]
    simpa [advanceAll] using hline
  · rw [OnionEnd.channel_encode, hpeel]
    simp [OnionEnd.encode, advanceAll]

/-- Hops on the way to the client carry the exit's cells. -/
theorem carries_backward (circuitId : CircuitId) :
    Carries (OnionEnd.channel circuitId) hopTransducer BackwardInStep
      fun cell => cell.command ≠ .padding := by
  rintro line ⟨ciphers, digest⟩ sink cell hcell rfl
  have hwrap := chain_wrap circuitId line.reverse ciphers digest hcell
  rw [List.reverse_reverse] at hwrap
  refine ⟨congrArg Prod.snd hwrap, ?_⟩
  simp only [BackwardInStep, OnionEnd.channel_encode, hwrap]
  simp [OnionEnd.encode, advanceAll]

/-- Padding disappears on the way to the exit. -/
theorem swallows_padding {msg : Message} (hpadding : msg.command = .padding) :
    Swallows hopTransducer ForwardInStep msg :=
  fun line _ _ hstep => chain_padding line hpadding hstep.1

namespace Network

/-! ## The invariant -/

/-- The forward direction. -/
def forwardLink (net : Network) : Link OnionEnd Aes128Ctr RelayCell Message where
  source := net.client.onionKeys.forwardEnd
  stages := net.hops.map HopNode.forwardStage
  inbox := net.exitInbox
  sink := net.exitState.forwardEnd
  sent := net.sent
  read := net.recovered

/-- The backward direction. -/
def backwardLink (net : Network) : Link OnionEnd Aes128Ctr RelayCell Message where
  source := net.exitState.backwardEnd
  stages := (net.hops.map HopNode.backwardStage).reverse
  inbox := net.clientInbox
  sink := net.client.onionKeys.backwardEnd
  sent := net.emitted
  read := net.received

/-- Where a circuit started: its two lines, the ends that read, and the ids that
the two ends write. -/
structure Origin where
  line : List Aes128Ctr
  first : OnionEnd
  lineBack : List Aes128Ctr
  firstBack : OnionEnd
  clientId : CircuitId
  exitId : CircuitId

/-- Where a circuit that is ready starts. -/
def origin (net : Network) : Origin where
  line := net.hops.map fun node => node.pair.forward
  first := net.exitState.forwardEnd
  lineBack := (net.hops.map fun node => node.pair.backward).reverse
  firstBack := net.client.onionKeys.backwardEnd
  clientId := net.client.circuitId
  exitId := net.exit.context.circuitId

/-- The invariant of a circuit. -/
structure Sound (origin : Origin) (net : Network) : Prop where
  clientId : net.client.circuitId = origin.clientId
  exitId : net.exit.context.circuitId = origin.exitId
  hops : ∀ h ∈ net.hops.map HopNode.handler, h.Established
  exit : net.exit.sharedState = some net.exitState
  forward : net.forwardLink.Sound (OnionEnd.channel origin.clientId) hopTransducer ForwardInStep
    origin.line origin.first
  backward : net.backwardLink.Sound (OnionEnd.channel origin.exitId) hopTransducer BackwardInStep
    origin.lineBack origin.firstBack
  traffic : Pipeline.Holds ForwardTraffic (net.forwardLink.stages, net.forwardLink.inbox)
  backTraffic : Pipeline.Holds BackwardTraffic (net.backwardLink.stages, net.backwardLink.inbox)
  sendable : ∀ cell ∈ net.sent, cell.Sendable
  running : net.failed = false

/-- What a step does to the two directions of a circuit that started at `origin`. -/
def LinkStep (origin : Origin) (net : Network) (event : NetworkEvent) (net' : Network) : Prop :=
  match event with
  | .send cell =>
      net'.forwardLink = net.forwardLink.send (OnionEnd.channel origin.clientId) cell ∧
        net'.backwardLink = net.backwardLink
  | .padding payload =>
      net'.forwardLink = net.forwardLink.feed (Message.padding net.client.circuitId payload) ∧
        net'.backwardLink = net.backwardLink
  | .relay _ =>
      net.forwardLink.Moves hopTransducer net'.forwardLink ∧ net'.backwardLink = net.backwardLink
  | .relayBack _ =>
      net'.forwardLink = net.forwardLink ∧ net.backwardLink.Moves hopTransducer net'.backwardLink
  | .exit =>
      (∃ cell, net.forwardLink.Reads cell net'.forwardLink) ∧ ∃ answer : Option RelayCell,
        net'.backwardLink =
          answer.toList.foldl (Link.send (OnionEnd.channel origin.exitId)) net.backwardLink
  | .emit cell =>
      net'.forwardLink = net.forwardLink ∧
        net'.backwardLink = net.backwardLink.send (OnionEnd.channel origin.exitId) cell
  | .receive =>
      net'.forwardLink = net.forwardLink ∧ ∃ cell, net.backwardLink.Reads cell net'.backwardLink

variable {origin : Origin} {net : Network}

/-- Sending keeps the invariant. -/
theorem Sound.clientSends (h : net.Sound origin) {cell : RelayCell} (hcell : cell.Sendable) :
    (net.clientSends cell).Sound origin ∧
      LinkStep origin net (.send cell) (net.clientSends cell) := by
  obtain ⟨hmsg, hforward, hbackward, hid⟩ :=
    net.client.sendMessage_eq cell.streamId cell.command hcell.fits
  generalize hout : net.client.sendMessage cell.streamId cell.command cell.data (.ok ()) = out
    at hmsg hforward hbackward hid
  obtain ⟨client, result⟩ := out
  simp only at hmsg hforward hbackward hid
  subst hmsg
  simp only [h.clientId] at hout hforward
  have hnet : net.clientSends cell = { net with
      client
      hops := (feedForward net.hops net.exitInbox
        [(OnionEnd.encode origin.clientId net.client.onionKeys.forwardEnd cell).2]).1
      exitInbox := (feedForward net.hops net.exitInbox
        [(OnionEnd.encode origin.clientId net.client.onionKeys.forwardEnd cell).2]).2
      sent := net.sent ++ [cell] } := by
    simp only [Network.clientSends, hout]
  have hfed := feedForward_forward net.hops net.exitInbox
    [(OnionEnd.encode origin.clientId net.client.onionKeys.forwardEnd cell).2]
  have hlink : (net.clientSends cell).forwardLink =
      net.forwardLink.send (OnionEnd.channel origin.clientId) cell := by
    rw [hnet]
    simp only [forwardLink, Link.send, Link.feed, OnionEnd.channel_encode, ← hfed, hforward]
    rfl
  have hback : (net.clientSends cell).backwardLink = net.backwardLink := by
    rw [hnet]
    simp only [backwardLink, feedForward_backward, hbackward]
    rfl
  refine ⟨?_, hlink, hback⟩
  rw [hnet] at hlink hback ⊢
  exact { h with
    clientId := hid.trans h.clientId
    hops := by simpa only [feedForward_handler] using h.hops
    forward := hlink ▸ h.forward.send (carries_forward _) hcell.ne_padding
    backward := hback ▸ h.backward
    traffic := by
      rw [hlink]
      apply h.traffic.feed
      intro msg hmsg
      rw [List.mem_singleton.mp hmsg]
      exact ⟨.inr (by simpa using hcell.command), by simpa using hcell.fits⟩
    backTraffic := hback ▸ h.backTraffic
    sendable := fun c hc => (List.mem_append.mp hc).elim (h.sendable c)
      fun hnew => List.mem_singleton.mp hnew ▸ hcell }

/-- Padding keeps the invariant. -/
theorem Sound.clientPads (h : net.Sound origin) {payload : Bytes}
    (hshort : payload.length < maxPayloadSize) :
    (net.clientPads payload).Sound origin ∧
      LinkStep origin net (.padding payload) (net.clientPads payload) := by
  have hfed := feedForward_forward net.hops net.exitInbox
    [Message.padding net.client.circuitId payload]
  have hlink : (net.clientPads payload).forwardLink =
      net.forwardLink.feed (Message.padding net.client.circuitId payload) := by
    simp only [forwardLink, Link.feed, ← hfed]
    rfl
  have hback : (net.clientPads payload).backwardLink = net.backwardLink := by
    simp only [backwardLink, Network.clientPads, feedForward_backward]
    rfl
  refine ⟨?_, hlink, hback⟩
  exact { h with
    hops := by simpa only [Network.clientPads, feedForward_handler] using h.hops
    forward := hlink ▸ h.forward.swallow (swallows_padding rfl)
    backward := hback ▸ h.backward
    traffic := by
      rw [hlink]
      apply h.traffic.feed
      intro msg hmsg
      rw [List.mem_singleton.mp hmsg]
      exact ⟨.inl rfl, hshort.le⟩
    backTraffic := hback ▸ h.backTraffic }

/-- One hop's handler may change to another established one. -/
theorem Sound.hops_replace (h : net.Sound origin) {front : List HopNode} {node : HopNode}
    {back : List HopNode} {handler : HopHandler} (hhops : net.hops = front ++ node :: back)
    (hhandler : handler.Established) :
    ∀ other ∈ front.map HopNode.handler ++ handler :: back.map HopNode.handler,
      other.Established := by
  intro other hother
  rcases List.mem_append.mp hother with hfront | hrest
  · exact h.hops other (by rw [hhops, List.map_append]; exact List.mem_append_left _ hfront)
  · rcases List.mem_cons.mp hrest with rfl | hback
    · exact hhandler
    · apply h.hops other
      rw [hhops, List.map_append, List.map_cons]
      exact List.mem_append_right _ (List.mem_cons_of_mem _ hback)

/-- A read of a hop keeps the invariant. -/
theorem Sound.hopReads [AddrText] (h : net.Sound origin) {front : List HopNode} {node : HopNode}
    {back : List HopNode} {io : RelayIo} {msg : Message} {rest : List Message}
    (hhops : net.hops = front ++ node :: back) (hinbox : node.inbox = msg :: rest)
    (hdelivers : io.Delivers) :
    (net.hopReads front node back io msg rest).Sound origin ∧
      LinkStep origin net (.relay front.length) (net.hopReads front node back io msg rest) := by
  have hnode : node.handler.Established := h.hops _ (by simp [hhops])
  have hmsg : ForwardTraffic msg := by
    refine h.traffic.1 node.forwardStage ?_ msg ?_
    · simp [forwardLink, hhops]
    · simp [HopNode.forwardStage, hinbox]
  obtain ⟨handler, effects, hout, hhandler, hcipher, hother, hsent⟩ :=
    HopNode.handleMessage_eq hnode hmsg hdelivers
  have hfed := feedForward_forward back net.exitInbox (effects.filterMap RelayEffect.sent?)
  have hnet : net.hopReads front node back io msg rest = { net with
      hops := front ++ { node with handler, inbox := rest } ::
        (feedForward back net.exitInbox (effects.filterMap RelayEffect.sent?)).1
      exitInbox := (feedForward back net.exitInbox (effects.filterMap RelayEffect.sent?)).2 } := by
    simp [Network.hopReads, hout, writeBack, feedBackward_nil]
  have hstages : net.forwardLink.stages = front.map HopNode.forwardStage ++
      ⟨node.pair.forward, msg :: rest⟩ :: back.map HopNode.forwardStage := by
    simp [forwardLink, hhops, HopNode.forwardStage, hinbox]
  obtain ⟨after, hstep, hlink⟩ : ∃ after, Pipeline.Step hopTransducer
      (net.forwardLink.stages, net.forwardLink.inbox) after ∧
        (net.hopReads front node back io msg rest).forwardLink = net.forwardLink.moved after := by
    rw [hstages]
    refine ⟨_, .read _ _ _ _ _ _, ?_⟩
    rw [hnet]
    simp only [forwardLink, Link.moved, ← hsent, ← hfed, ← hcipher, List.map_append, List.map_cons]
    rfl
  have hback : (net.hopReads front node back io msg rest).backwardLink = net.backwardLink := by
    rw [hnet]
    simp only [backwardLink, hhops, List.map_append, List.map_cons, feedForward_backward]
    simp only [HopNode.backwardStage, HopNode.pair, hother]
    rfl
  refine ⟨?_, ⟨after, hstep, hlink⟩, hback⟩
  rw [hnet] at hlink hback ⊢
  exact { h with
    hops := by
      simp only [List.map_append, List.map_cons, feedForward_handler]
      exact h.hops_replace hhops hhandler
    forward := hlink ▸ h.forward.step hstep
    backward := hback ▸ h.backward
    traffic := hlink ▸ h.traffic.step (fun _ _ => forwardTraffic_step _) hstep
    backTraffic := hback ▸ h.backTraffic }

/-- A read of a hop from its next hop keeps the invariant. -/
theorem Sound.hopReadsBack [AddrText] (h : net.Sound origin) {front : List HopNode}
    {node : HopNode} {back : List HopNode} {msg : Message} {rest : List Message}
    (hhops : net.hops = front ++ node :: back) (hinbox : node.backInbox = msg :: rest) :
    (net.hopReadsBack front node back msg rest).Sound origin ∧
      LinkStep origin net (.relayBack front.length)
        (net.hopReadsBack front node back msg rest) := by
  have hnode : node.handler.Established := h.hops _ (by simp [hhops])
  have hmsg : BackwardTraffic msg := by
    refine h.backTraffic.1 node.backwardStage ?_ msg ?_
    · simp [backwardLink, hhops]
    · simp [HopNode.backwardStage, hinbox]
  obtain ⟨handler, out, hout, hhandler, hcipher, hother, hsent⟩ :=
    HopNode.handleBackwardRelay_eq hnode hmsg
  have hfits : ∀ m ∈ [out], m.data.length ≤ maxPayloadSize := by
    intro m hm
    rw [hsent] at hm
    exact (backwardTraffic_step _ hmsg m hm).2.2
  have hfed := feedBackward_backward front net.clientInbox [out]
  have hnet : net.hopReadsBack front node back msg rest = { net with
      hops := (feedBackward front net.clientInbox [out]).1 ++
        { node with handler, backInbox := rest } :: back
      clientInbox := (feedBackward front net.clientInbox [out]).2 } := by
    simp only [Network.hopReadsBack, hout, hmsg.2.1, and_false, if_false]
    exact writeBack_eq net front _ hfits
  have hstages : net.backwardLink.stages = (back.map HopNode.backwardStage).reverse ++
      ⟨node.pair.backward, msg :: rest⟩ :: (front.map HopNode.backwardStage).reverse := by
    simp [backwardLink, hhops, HopNode.backwardStage, hinbox]
  obtain ⟨after, hstep, hlink⟩ : ∃ after,
      Pipeline.Step hopTransducer (net.backwardLink.stages, net.backwardLink.inbox) after ∧
      (net.hopReadsBack front node back msg rest).backwardLink =
        net.backwardLink.moved after := by
    rw [hstages]
    refine ⟨_, .read _ _ _ _ _ _, ?_⟩
    rw [hnet]
    simp only [backwardLink, Link.moved, ← hsent, ← hfed, ← hcipher, List.map_append, List.map_cons,
      List.reverse_append, List.reverse_cons, List.append_assoc, List.singleton_append]
    rfl
  have hforward : (net.hopReadsBack front node back msg rest).forwardLink = net.forwardLink := by
    rw [hnet]
    simp only [forwardLink, hhops, List.map_append, List.map_cons, feedBackward_forward]
    simp only [HopNode.forwardStage, HopNode.pair, hother]
    rfl
  refine ⟨?_, hforward, after, hstep, hlink⟩
  rw [hnet] at hlink hforward ⊢
  exact { h with
    hops := by
      simp only [List.map_append, List.map_cons, feedBackward_handler]
      exact h.hops_replace hhops hhandler
    forward := hforward ▸ h.forward
    backward := hlink ▸ h.backward.step hstep
    traffic := hforward ▸ h.traffic
    backTraffic := hlink ▸ h.backTraffic.step (fun _ _ => backwardTraffic_step _) hstep }

/-- The circuit after the exit has opened a message. -/
def opened (net : Network) (state : ExitCryptoState) (rest : List Message) (cell : RelayCell) :
    Network :=
  { net with
    exit := { net.exit with sharedState := some state }
    exitInbox := rest
    recovered := net.recovered ++ [cell] }

/-- The exit opens a message: it decodes to the next cell that the client sent. -/
theorem Sound.exitOpens (h : net.Sound origin) {msg : Message} {rest : List Message}
    (hinbox : net.exitInbox = msg :: rest) :
    ∃ cell state, (net.exitState.forwardEnd.decode msg).2 = some cell ∧ cell.Sendable ∧
      state.forwardEnd = (net.exitState.forwardEnd.decode msg).1 ∧
      state.backwardEnd = net.exitState.backwardEnd ∧
      (net.opened state rest cell).Sound origin ∧
      net.forwardLink.Reads cell (net.opened state rest cell).forwardLink ∧
      (net.opened state rest cell).backwardLink = net.backwardLink := by
  obtain ⟨cell, hdecode, hread, hforward⟩ := h.forward.receive hinbox
  obtain ⟨state, -, hstate, hother, -⟩ := ExitCryptoState.openCell_eq hdecode
  have hcell : cell.Sendable := h.sendable cell (hread.subset (by simp))
  have hlink : (net.opened state rest cell).forwardLink =
      net.forwardLink.receive (net.exitState.forwardEnd.decode msg).1 rest cell := by
    rw [← hstate]
    rfl
  have hback : (net.opened state rest cell).backwardLink = net.backwardLink := by
    simp only [backwardLink, ← hother]
    rfl
  refine ⟨cell, state, hdecode, hcell, hstate, hother, ?_, ⟨msg, rest, _, hinbox, hread, hlink⟩,
    hback⟩
  exact { h with
    exit := rfl
    forward := hlink ▸ hforward
    backward := hback ▸ h.backward
    traffic := h.traffic.read hinbox
    backTraffic := hback ▸ h.backTraffic }

/-- The exit seals an answer, if it has one, and writes it. -/
theorem Sound.exitWrites (h : net.Sound origin) (exit : ExitCircuitHandler)
    {state : ExitCryptoState} (answer : Option RelayCell)
    (hstate : exit.sharedState = some state) (hid : exit.context.circuitId = origin.exitId)
    (hforward : state.forwardEnd = net.exitState.forwardEnd)
    (hbackward : state.backwardEnd =
      ((OnionEnd.channel origin.exitId).encodeAll net.exitState.backwardEnd answer.toList).1)
    (hanswer : ∀ a ∈ answer, a.data.length ≤ maxPayloadSize ∧
      a.command ≠ .padding ∧ a.command ≠ .destroy) {net' : Network}
    (hnet' : net' = ({ net with exit, emitted := net.emitted ++ answer.toList } : Network).writeBack
      net.hops [] ((OnionEnd.channel origin.exitId).encodeAll net.exitState.backwardEnd
        answer.toList).2) :
    net'.Sound origin ∧ net'.forwardLink = net.forwardLink ∧ net'.backwardLink =
      answer.toList.foldl (Link.send (OnionEnd.channel origin.exitId)) net.backwardLink := by
  have hexit : exit.sharedState.getD (ExitCryptoState.new blankPair) = state := by simp [hstate]
  have hfits : ∀ msg ∈ ((OnionEnd.channel origin.exitId).encodeAll net.exitState.backwardEnd
      answer.toList).2, BackwardTraffic msg := by
    cases answer with
    | none => simp
    | some a =>
        obtain ⟨hshort, hpadding, hdestroy⟩ := hanswer a rfl
        intro msg hmsg
        rw [List.mem_singleton.mp hmsg]
        exact ⟨hpadding, hdestroy, by simpa using hshort⟩
  obtain ⟨msgs, hmsgs⟩ : ∃ msgs, msgs = ((OnionEnd.channel origin.exitId).encodeAll
    net.exitState.backwardEnd answer.toList).2 := ⟨_, rfl⟩
  rw [← hmsgs] at hfits hnet'
  rw [writeBack_eq _ _ _ fun msg hmsg => (hfits msg hmsg).2.2] at hnet'
  have hfed := feedBackward_backward net.hops net.clientInbox msgs
  have hstages := congrArg Prod.fst hfed
  have hinbox := congrArg Prod.snd hfed
  simp only at hstages hinbox
  have hforwards : net'.forwardLink = net.forwardLink := by
    rw [hnet']
    simp only [forwardLink, exitState, List.append_nil, feedBackward_forward, hexit, hforward]
  have hsent : net'.backwardLink =
      answer.toList.foldl (Link.send (OnionEnd.channel origin.exitId)) net.backwardLink := by
    rw [hnet']
    simp only [backwardLink, exitState, List.append_nil, hexit, hstages, hinbox, hbackward]
    rw [hmsgs]
    cases answer with
    | none => simp
    | some a => rfl
  refine ⟨?_, hforwards, hsent⟩
  have hsound : (answer.toList.foldl (Link.send (OnionEnd.channel origin.exitId))
      net.backwardLink).Sound (OnionEnd.channel origin.exitId) hopTransducer BackwardInStep
        origin.lineBack origin.firstBack := by
    cases answer with
    | none => exact h.backward
    | some a => exact h.backward.send (carries_backward _) (hanswer a rfl).2.1
  rw [← hsent] at hsound
  rw [hnet'] at hforwards hsound ⊢
  exact { h with
    exitId := hid
    hops := by simpa only [List.append_nil, feedBackward_handler] using h.hops
    exit := by simp [exitState, hstate]
    forward := hforwards ▸ h.forward
    backward := hsound
    traffic := hforwards ▸ h.traffic
    backTraffic := by
      simp only [backwardLink, List.append_nil, hstages, hinbox]
      exact h.backTraffic.feed hfits }

/-- A read of the exit keeps the invariant. -/
theorem Sound.exitReads (h : net.Sound origin) {io : RelayIo} {msg : Message}
    {rest : List Message} (hinbox : net.exitInbox = msg :: rest) (hdelivers : io.Delivers)
    (htexts : io.TextsFit) :
    (net.exitReads io msg rest).Sound origin ∧
      LinkStep origin net .exit (net.exitReads io msg rest) := by
  obtain ⟨cell, state, hdecode, hcell, hforward, hbackward, hopened, hreads, hsame⟩ :=
    h.exitOpens hinbox
  obtain ⟨answer, hanswers⟩ := ExitCircuitHandler.handleMessage_answers exitPrevHop
    h.exit hdecode hcell hdelivers htexts
  obtain ⟨state', reply, hstate, hresult, hforward', hbackward', hwritten⟩ := hanswers.ends
  rw [h.exitId] at hbackward' hwritten
  obtain ⟨hsound, hforwards, hbackwards⟩ := hopened.exitWrites
    (net.exit.handleMessage io (some exitPrevHop) msg).handler answer hstate
    (hanswers.keepsId.trans h.exitId) (hforward'.trans hforward.symm)
    (by rw [hbackward', ← hbackward]; rfl) hanswers.answer_fits
    (show net.exitReads io msg rest = _ by
      simp only [Network.exitReads, hresult, hanswers.recovered, hanswers.sealed, hwritten]
      rw [← hbackward]
      rfl)
  rw [hsame] at hbackwards
  exact ⟨hsound, ⟨cell, hforwards ▸ hreads⟩, answer, hbackwards⟩

/-- A cell of a stream task keeps the invariant. -/
theorem Sound.exitEmits (h : net.Sound origin) {cell : RelayCell} (hcell : cell.Emittable) :
    (net.exitEmits cell).Sound origin ∧ LinkStep origin net (.emit cell) (net.exitEmits cell) := by
  obtain ⟨state, hseal, hbackward, hforward⟩ :=
    net.exitState.sealCell_eq net.exit.context.circuitId cell
  rw [h.exitId] at hbackward
  have hfits : ∀ a ∈ some cell, a.data.length ≤ maxPayloadSize ∧
      a.command ≠ .padding ∧ a.command ≠ .destroy := by
    intro a ha
    cases ha
    exact ⟨hcell.fits, hcell.command⟩
  refine h.exitWrites { net.exit with sharedState := some state } (some cell) rfl h.exitId hforward
    hbackward hfits ?_
  simp only [Network.exitEmits, h.exit, hseal]
  rw [h.exitId]
  rfl

/-- A read of the client keeps the invariant. -/
theorem Sound.clientReads (h : net.Sound origin) {msg : Message} {rest : List Message}
    (hinbox : net.clientInbox = msg :: rest) :
    (net.clientReads msg rest).Sound origin ∧
      LinkStep origin net .receive (net.clientReads msg rest) := by
  have hmsg : BackwardTraffic msg := h.backTraffic.2 msg (by simp [backwardLink, hinbox])
  obtain ⟨cell, hdecode, hread, hbackward⟩ := h.backward.receive hinbox
  obtain ⟨hcell, hback, hforward, hid⟩ := net.client.readMessage_eq hmsg.2.1
  rw [show (net.client.onionKeys.backwardEnd.decode msg).2 = some cell from hdecode] at hcell
  have hnet : net.clientReads msg rest = { net with
      client := (net.client.readMessage msg).1
      clientInbox := rest
      received := net.received ++ [cell] } := by
    simp only [Network.clientReads, hcell]
  have hlink : (net.clientReads msg rest).backwardLink =
      net.backwardLink.receive (net.client.onionKeys.backwardEnd.decode msg).1 rest cell := by
    rw [hnet]
    simp only [backwardLink, hback]
    rfl
  have hother : (net.clientReads msg rest).forwardLink = net.forwardLink := by
    rw [hnet]
    simp only [forwardLink, hforward]
    rfl
  refine ⟨?_, hother, cell, msg, rest, _, hinbox, hread, hlink⟩
  rw [hnet] at hlink hother ⊢
  exact { h with
    clientId := hid.trans h.clientId
    forward := hother ▸ h.forward
    backward := hlink ▸ hbackward
    traffic := hother ▸ h.traffic
    backTraffic := h.backTraffic.read hinbox }

/-- Every step keeps the invariant. -/
theorem Sound.step [AddrText] (h : net.Sound origin) {event : NetworkEvent} {net' : Network}
    (hstep : Step net event net') : net'.Sound origin ∧ LinkStep origin net event net' := by
  cases hstep with
  | send _ _ hcell => exact h.clientSends hcell
  | padding _ _ hshort => exact h.clientPads hshort
  | relay _ _ _ _ _ _ _ hhops hinbox hdelivers => exact h.hopReads hhops hinbox hdelivers
  | relayBack _ _ _ _ _ _ hhops hinbox => exact h.hopReadsBack hhops hinbox
  | exit _ _ _ _ hinbox hdelivers htexts => exact h.exitReads hinbox hdelivers htexts
  | emit _ _ hcell => exact h.exitEmits hcell
  | receive _ _ _ hinbox => exact h.clientReads hinbox

/-! ## The start -/

/-- A circuit that is ready meets the invariant. -/
theorem Ready.sound (h : net.Ready) : net.Sound net.origin := by
  obtain ⟨hciphers, hexit, -⟩ := h.pairs
  obtain ⟨hforwardDigest, hbackwardDigest⟩ := h.exitDigests net.exitState (by simp [hexit])
  have hforward : net.forwardLink =
      Link.start net.client.onionKeys.forwardEnd net.origin.line net.exitState.forwardEnd := by
    have hstages : net.hops.map HopNode.forwardStage =
        net.origin.line.map fun cipher => ⟨cipher, []⟩ := by
      simp only [origin, List.map_map]
      exact List.map_congr_left fun node hnode => by
        simp [HopNode.forwardStage, (h.inboxes node hnode).1]
    simp only [forwardLink, Link.start, hstages, h.idle.1, h.fresh.1, h.fresh.2.1]
  have hbackward : net.backwardLink =
      Link.start net.exitState.backwardEnd net.origin.lineBack
        net.client.onionKeys.backwardEnd := by
    have hstages : (net.hops.map HopNode.backwardStage).reverse =
        net.origin.lineBack.map fun cipher => ⟨cipher, []⟩ := by
      simp only [origin, List.map_reverse, List.map_map]
      congr 1
      exact List.map_congr_left fun node hnode => by
        simp [HopNode.backwardStage, (h.inboxes node hnode).2]
    simp only [backwardLink, Link.start, hstages, h.idle.2, h.fresh.2.2.1, h.fresh.2.2.2]
  have hnothing : ∀ (P : Message → Prop) (line : List Aes128Ctr),
      Pipeline.Holds P ((line.map fun cipher => (⟨cipher, []⟩ : Stage Aes128Ctr Message)), []) := by
    intro P line
    refine ⟨fun stage hstage => ?_, by simp⟩
    obtain ⟨cipher, -, rfl⟩ := List.mem_map.mp hstage
    simp
  refine ⟨rfl, rfl, ?_, hexit, ?_, ?_, ?_, ?_, by simp [h.fresh.1], h.running⟩
  · intro handler hhandler
    obtain ⟨node, hnode, rfl⟩ := List.mem_map.mp hhandler
    exact h.established node hnode
  · rw [hforward]
    refine Link.sound_start _ _ _ ⟨?_, ?_⟩
    · have hlong := h.long
      intro hnil
      simp only [origin, List.map_eq_nil_iff] at hnil
      simp [hnil] at hlong
    · simp [OnionKeys.forwardEnd, ExitCryptoState.forwardEnd, origin, hciphers,
        h.clientDigests.1, hforwardDigest]
  · rw [hbackward]
    apply Link.sound_start _ _ _
    simp [BackwardInStep, OnionKeys.backwardEnd, ExitCryptoState.backwardEnd, origin, hciphers,
      h.clientDigests.2, hbackwardDigest]
  · rw [hforward]
    exact hnothing _ _
  · rw [hbackward]
    exact hnothing _ _

/-! ## The logs -/

/-- What a step does to the logs: what the client sends and what the exit emits comes to the end
of its log, and each read of the exit and of the client takes the next cell of the log it reads. -/
def LogStep (net : Network) (event : NetworkEvent) (net' : Network) : Prop :=
  match event with
  | .send cell =>
      net'.sent = net.sent ++ [cell] ∧ net'.recovered = net.recovered ∧
        net'.emitted = net.emitted ∧ net'.received = net.received
  | .padding _ | .relay _ | .relayBack _ =>
      net'.sent = net.sent ∧ net'.recovered = net.recovered ∧
        net'.emitted = net.emitted ∧ net'.received = net.received
  | .exit =>
      net'.sent = net.sent ∧
        (∃ cell, net.sent[net.recovered.length]? = some cell ∧
          net'.recovered = net.recovered ++ [cell]) ∧
        (∃ answer : Option RelayCell, net'.emitted = net.emitted ++ answer.toList) ∧
        net'.received = net.received
  | .emit cell =>
      net'.sent = net.sent ∧ net'.recovered = net.recovered ∧
        net'.emitted = net.emitted ++ [cell] ∧ net'.received = net.received
  | .receive =>
      net'.sent = net.sent ∧ net'.recovered = net.recovered ∧ net'.emitted = net.emitted ∧
        ∃ cell, net.emitted[net.received.length]? = some cell ∧
          net'.received = net.received ++ [cell]

/-- The logs are those of the two directions. -/
theorem LinkStep.logStep {event : NetworkEvent} {net' : Network}
    (h : LinkStep origin net event net') : LogStep net event net' := by
  have hlogs : ∀ {l l' : Link OnionEnd Aes128Ctr RelayCell Message}, l' = l →
      l'.sent = l.sent ∧ l'.read = l.read := by
    rintro l l' rfl
    exact ⟨rfl, rfl⟩
  cases event with
  | send cell | padding payload =>
      obtain ⟨hforward, hback⟩ := h
      exact ⟨congrArg Link.sent hforward, congrArg Link.read hforward, hlogs hback⟩
  | relay position =>
      obtain ⟨hmoves, hback⟩ := h
      exact ⟨hmoves.logs.1, hmoves.logs.2, hlogs hback⟩
  | relayBack position =>
      obtain ⟨hforward, hmoves⟩ := h
      exact ⟨(hlogs hforward).1, (hlogs hforward).2, hmoves.logs⟩
  | exit =>
      obtain ⟨⟨cell, hreads⟩, answer, hback⟩ := h
      obtain ⟨hsent, hread, hnext⟩ := hreads.logs
      obtain ⟨hemitted, hreceived⟩ :=
        Link.logs_sends (OnionEnd.channel origin.exitId) answer.toList net.backwardLink
      exact ⟨hsent, ⟨cell, hnext, hread⟩, ⟨answer, (hlogs hback).1.trans hemitted⟩,
        (hlogs hback).2.trans hreceived⟩
  | emit cell =>
      obtain ⟨hforward, hback⟩ := h
      exact ⟨(hlogs hforward).1, (hlogs hforward).2, congrArg Link.sent hback,
        congrArg Link.read hback⟩
  | receive =>
      obtain ⟨hforward, cell, hreads⟩ := h
      obtain ⟨hemitted, hread, hnext⟩ := hreads.logs
      exact ⟨(hlogs hforward).1, (hlogs hforward).2, hemitted, cell, hnext, hread⟩

/-! ## Where a circuit comes to rest -/

omit [Primitives] in
/-- Nothing is on its way to the exit exactly where nothing is left to read. -/
theorem pending_forwardLink : net.forwardLink.pending = 0 ↔ net.ForwardIdle := by
  rw [Link.pending_eq_zero]
  simp [Link.Drained, forwardLink, ForwardIdle, HopNode.forwardStage]

omit [Primitives] in
/-- Nothing is on its way to the client exactly where nothing is left to read. -/
theorem pending_backwardLink : net.backwardLink.pending = 0 ↔ net.BackwardIdle := by
  rw [Link.pending_eq_zero]
  simp [Link.Drained, backwardLink, BackwardIdle, HopNode.backwardStage]

/-- A hop writes one message at most for each it reads. -/
theorem length_hopTransducer_le (cipher : Aes128Ctr) (msg : Message) :
    (hopTransducer.step cipher msg).2.length ≤ 1 := by
  unfold hopTransducer
  dsimp only
  split <;> simp

/-- Every read on the way to the exit leaves less to read there. -/
theorem LinkStep.forward_lt {event : NetworkEvent} {net' : Network}
    (h : LinkStep origin net event net') (hevent : event.Forwards) :
    net'.forwardLink.pending < net.forwardLink.pending := by
  cases event with
  | relay position => exact h.1.pending_lt length_hopTransducer_le
  | exit =>
      obtain ⟨⟨cell, hreads⟩, -⟩ := h
      exact hreads.pending_lt
  | _ => exact hevent.elim

/-- Every read on the way to the client leaves less to read there, and what is on its way to the
exit as it is. -/
theorem LinkStep.backward_lt {event : NetworkEvent} {net' : Network}
    (h : LinkStep origin net event net') (hevent : event.Backwards) :
    net'.forwardLink = net.forwardLink ∧
      net'.backwardLink.pending < net.backwardLink.pending := by
  cases event with
  | relayBack position => exact ⟨h.1, h.2.pending_lt length_hopTransducer_le⟩
  | receive =>
      obtain ⟨hforward, cell, hreads⟩ := h
      exact ⟨hforward, hreads.pending_lt⟩
  | _ => exact hevent.elim

/-- While a cell is on its way to the exit, somebody can read it. -/
theorem Sound.exists_forwards [AddrText] (h : net.Sound origin) (hbusy : ¬ net.ForwardIdle)
    {io : RelayIo} (hdelivers : io.Delivers) (htexts : io.TextsFit) :
    ∃ event net', Step net event net' ∧ event.Forwards := by
  cases hinbox : net.exitInbox with
  | cons msg rest => exact ⟨_, _, .exit net io msg rest h.running hinbox hdelivers htexts, trivial⟩
  | nil =>
      obtain ⟨node, hnode, hwaits⟩ : ∃ node ∈ net.hops, node.inbox ≠ [] := by
        simpa [ForwardIdle, hinbox] using hbusy
      obtain ⟨front, back, hhops⟩ := List.append_of_mem hnode
      obtain ⟨msg, rest, hmsg⟩ := List.exists_cons_of_ne_nil hwaits
      exact ⟨_, _, .relay net front node back io msg rest h.running hhops hmsg hdelivers, trivial⟩

/-- While a cell is on its way to the client, somebody can read it. -/
theorem Sound.exists_backwards [AddrText] (h : net.Sound origin) (hbusy : ¬ net.BackwardIdle) :
    ∃ event net', Step net event net' ∧ event.Backwards := by
  cases hinbox : net.clientInbox with
  | cons msg rest => exact ⟨_, _, .receive net msg rest h.running hinbox, trivial⟩
  | nil =>
      obtain ⟨node, hnode, hwaits⟩ : ∃ node ∈ net.hops, node.backInbox ≠ [] := by
        simpa [BackwardIdle, hinbox] using hbusy
      obtain ⟨front, back, hhops⟩ := List.append_of_mem hnode
      obtain ⟨msg, rest, hmsg⟩ := List.exists_cons_of_ne_nil hwaits
      exact ⟨_, _, .relayBack net front node back msg rest h.running hhops hmsg, trivial⟩

/-- Reads on the way to the exit alone bring everything there. -/
theorem Sound.drains_forward [AddrText] (h : net.Sound origin) :
    ∃ events net', system.Run net events net' ∧ (∀ event ∈ events, event.Forwards) ∧
      net'.Sound origin ∧ net'.ForwardIdle ∧ net'.sent = net.sent ∧
        net.emitted <+: net'.emitted := by
  obtain ⟨io, hdelivers, htexts, -⟩ := RelayIo.exists_connects fun _ => true
  obtain ⟨events, net', hrun, hevents, ⟨hsound, hsent, hemitted⟩, hzero⟩ :=
    TransitionSystem.exists_run_to_zero (T := system)
      (fun now => now.Sound origin ∧ now.sent = net.sent ∧ net.emitted <+: now.emitted)
      NetworkEvent.Forwards (fun now => now.forwardLink.pending) (fun now hnow hbusy => by
        obtain ⟨hsound, hsent, hemitted⟩ := hnow
        obtain ⟨event, next, hstep, hforwards⟩ :=
          hsound.exists_forwards (fun hidle => hbusy (pending_forwardLink.mpr hidle))
            hdelivers htexts
        obtain ⟨hnext, hlinks⟩ := hsound.step hstep
        refine ⟨event, next, hforwards, hstep, ⟨hnext, ?_⟩, hlinks.forward_lt hforwards⟩
        have hlogs := hlinks.logStep
        cases event with
        | relay position =>
            exact ⟨hlogs.1.trans hsent, hemitted.trans (hlogs.2.2.1 ▸ List.prefix_refl _)⟩
        | exit =>
            obtain ⟨hsame, -, ⟨answer, hanswer⟩, -⟩ := hlogs
            exact ⟨hsame.trans hsent, hemitted.trans (hanswer ▸ List.prefix_append _ _)⟩
        | _ => exact hforwards.elim)
      ⟨h, rfl, List.prefix_refl _⟩
  exact ⟨events, net', hrun, hevents, hsound, pending_forwardLink.mp hzero, hsent, hemitted⟩

/-- Reads on the way to the client alone bring everything there. -/
theorem Sound.drains_backward [AddrText] (h : net.Sound origin) :
    ∃ events net', system.Run net events net' ∧ (∀ event ∈ events, event.Backwards) ∧
      net'.Sound origin ∧ net'.BackwardIdle ∧ net'.forwardLink = net.forwardLink ∧
        net'.emitted = net.emitted := by
  obtain ⟨events, net', hrun, hevents, ⟨hsound, hforward, hemitted⟩, hzero⟩ :=
    TransitionSystem.exists_run_to_zero (T := system)
      (fun now => now.Sound origin ∧ now.forwardLink = net.forwardLink ∧
        now.emitted = net.emitted)
      NetworkEvent.Backwards (fun now => now.backwardLink.pending) (fun now hnow hbusy => by
        obtain ⟨hsound, hforward, hemitted⟩ := hnow
        obtain ⟨event, next, hstep, hbackwards⟩ :=
          hsound.exists_backwards fun hidle => hbusy (pending_backwardLink.mpr hidle)
        obtain ⟨hnext, hlinks⟩ := hsound.step hstep
        obtain ⟨hsame, hless⟩ := hlinks.backward_lt hbackwards
        refine ⟨event, next, hbackwards, hstep, ⟨hnext, hsame.trans hforward, ?_⟩, hless⟩
        have hlogs := hlinks.logStep
        cases event with
        | relayBack position => exact hlogs.2.2.1.trans hemitted
        | receive => exact hlogs.2.2.1.trans hemitted
        | _ => exact hbackwards.elim)
      ⟨h, rfl, rfl⟩
  exact ⟨events, net', hrun, hevents, hsound, pending_backwardLink.mp hzero, hforward, hemitted⟩

/-! ## The result -/

/-- A circuit that is reached from a ready one meets the invariant. -/
theorem Reachable.sound [AddrText] (hreach : Network.system.Reachable net) :
    ∃ origin : Origin, net.Sound origin :=
  hreach.invariant (fun net => ∃ origin : Origin, net.Sound origin)
    (fun start (hready : start.Ready) => ⟨start.origin, hready.sound⟩)
    fun _ _ _ ⟨origin, h⟩ hstep => ⟨origin, (h.step hstep).1⟩

/-- Once no forward cell is on its way, the exit has recovered all that was sent. -/
theorem Sound.recovered_eq_sent (h : net.Sound origin) (hidle : net.ForwardIdle) :
    net.recovered = net.sent :=
  h.forward.read_eq_sent (Link.pending_eq_zero.mp (pending_forwardLink.mpr hidle))

/-- Once no backward cell is on its way, the client has received all that was emitted. -/
theorem Sound.received_eq_emitted (h : net.Sound origin) (hidle : net.BackwardIdle) :
    net.received = net.emitted :=
  h.backward.read_eq_sent (Link.pending_eq_zero.mp (pending_backwardLink.mpr hidle))

/-- In every run of an established circuit no check fails. The exit has recovered the first part
of what the client sent, in order, and all of it once no forward cell is on its way; the client
has accepted the first part of what the exit emitted, in order, and all of it once no backward
cell is on its way. Every read of the exit recovers exactly the next cell sent, every read of the
client accepts exactly the next cell emitted, and no other step changes what they have read. And
wherever a run stands, reads alone bring it to where both have read everything. -/
theorem recovered_and_received [AddrText] (hreach : Network.system.Reachable net) :
    net.failed = false ∧
      (net.recovered <+: net.sent ∧ (net.ForwardIdle → net.recovered = net.sent)) ∧
      (net.received <+: net.emitted ∧ (net.BackwardIdle → net.received = net.emitted)) ∧
      (∀ event net', Step net event net' → net'.failed = false ∧ LogStep net event net') ∧
      ∃ events net', Network.system.Run net events net' ∧
        (∀ event ∈ events, event.Forwards ∨ event.Backwards) ∧
        net'.ForwardIdle ∧ net'.BackwardIdle ∧ net'.sent = net.sent ∧
        net'.recovered = net.sent ∧ net.emitted <+: net'.emitted ∧
        net'.received = net'.emitted := by
  obtain ⟨origin, h⟩ := Reachable.sound hreach
  refine ⟨h.running, ⟨h.forward.read_sent, h.recovered_eq_sent⟩,
    ⟨h.backward.read_sent, h.received_eq_emitted⟩, ?_, ?_⟩
  · intro event net' hstep
    obtain ⟨hsound, hlinks⟩ := h.step hstep
    exact ⟨hsound.running, hlinks.logStep⟩
  · obtain ⟨forwards, halfway, hrun, hforwards, hhalfway, hidle, hsent, hemitted⟩ :=
      h.drains_forward
    obtain ⟨backwards, net', hrun', hbackwards, hsound, hback, hlink, hsame⟩ :=
      hhalfway.drains_backward
    have hsent' : net'.sent = net.sent := (congrArg Link.sent hlink).trans hsent
    have hidle' : net'.ForwardIdle := by
      rw [← pending_forwardLink, hlink]
      exact pending_forwardLink.mpr hidle
    refine ⟨forwards ++ backwards, net', hrun.trans hrun', ?_, hidle', hback, hsent',
      (hsound.recovered_eq_sent hidle').trans hsent', hsame ▸ hemitted,
      hsound.received_eq_emitted hback⟩
    intro event hevent
    exact (List.mem_append.mp hevent).imp (hforwards event) (hbackwards event)

end Network

end

section

open Reference

/-- DATA after the request, and what a task emits for a read from its destination. -/
def sampleData : RelayCell := ⟨1, .data, asBytes "GET /"⟩

/-- See `sampleData`. -/
def sampleAnswer : RelayCell := ⟨1, .data, asBytes "200 OK"⟩

/-- The client of the circuit of three hops sends a request and DATA, a task of the exit emits
DATA, and the circuit comes to rest: the exit has recovered both cells, and the client has
received the third one. -/
theorem recovered_and_received_sampleNetwork :
    ∃ net, Network.system.Reachable net ∧ net.failed = false ∧
      net.recovered = [sampleBegin, sampleData] ∧ [sampleAnswer] <+: net.received := by
  have hstart := TransitionSystem.reachable_of_init (T := Network.system) sampleNetwork_ready
  have hbegin : Network.Step sampleNetwork (.send sampleBegin)
      (sampleNetwork.clientSends sampleBegin) := .send _ _ rfl sampleBegin_sendable
  obtain ⟨-, -, -, hsteps, -⟩ := Network.recovered_and_received hstart
  obtain ⟨hrunning, hsent, -, hemitted, -⟩ := hsteps _ _ hbegin
  have hdata : Network.Step _ (.send sampleData)
      ((sampleNetwork.clientSends sampleBegin).clientSends sampleData) :=
    .send _ _ hrunning ⟨.inr (.inl rfl), by decide, fun hcommand => by cases hcommand⟩
  obtain ⟨-, -, -, hsteps', -⟩ := Network.recovered_and_received (hstart.next hbegin)
  obtain ⟨hrunning', hsent', -, hemitted', -⟩ := hsteps' _ _ hdata
  have hanswer : Network.Step _ (.emit sampleAnswer)
      (((sampleNetwork.clientSends sampleBegin).clientSends sampleData).exitEmits sampleAnswer) :=
    .emit _ _ hrunning' ⟨⟨.data (asBytes "200 OK"), by decide⟩, by decide⟩
  obtain ⟨-, -, -, hsteps'', -⟩ := Network.recovered_and_received ((hstart.next hbegin).next hdata)
  obtain ⟨-, hsent'', -, hemitted'', -⟩ := hsteps'' _ _ hanswer
  have hreach := ((hstart.next hbegin).next hdata).next hanswer
  obtain ⟨-, -, -, -, events, net, hrun, -, -, -, -, hrecovered, hprefix, hreceived⟩ :=
    Network.recovered_and_received hreach
  obtain ⟨start, before, hinit, hbefore⟩ := hreach
  have hlast : Network.system.Reachable net := ⟨start, before ++ events, hinit, hbefore.trans hrun⟩
  refine ⟨net, hlast, (Network.recovered_and_received hlast).1, ?_, ?_⟩
  · rw [hrecovered, hsent'', hsent', hsent]
    rfl
  · rw [hreceived]
    refine List.IsPrefix.trans ?_ hprefix
    rw [hemitted'', hemitted', hemitted]
    exact List.prefix_refl _

end

end NoPanic
